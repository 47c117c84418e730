import LineShell.Style

/-!
# The banner

Two blocks of block letters, each line centred, each block followed by an empty line.
-/
namespace LineShell.Banner

/-- The block letters of the greeting. -/
def welcome : List String := [
  "__        _______ _     ____ ___  __  __ _____   _____ ___ ",
  "\\ \\      / / ____| |   / ___/ _ \\|  \\/  | ____| |_   _/ _ \\ ",
  " \\ \\ /\\ / /|  _| | |  | |  | | | | |\\/| |  _|     | || | | |",
  "  \\ V  V / | |___| |__| |__| |_| | |  | | |___    | || |_| |",
  "   \\_/\\_/  |_____|_____\\____\\___/|_|  |_|_____|   |_| \\___/ "]

/-- The block letters of the title. -/
def title : List String := [
  " ___ ___ _   _ ___   ____    _    ____  _   _ ",
  "|_ _|_ _| | | |_ _| | __ )  / \\  / ___|| | | |",
  " | | | || | | || |  |  _ \\ / _ \\ \\___ \\| |_| |",
  " | | | || |_| || |  | |_) / ___ \\ ___) |  _  |",
  "|___|___|\\___/|___| |____/_/   \\_\\____/|_| |_|"]

/-- The width of a terminal whose width is not known. -/
def defaultWidth : Nat := 80

/-- A line with as many spaces in front as put it into the middle of a width. -/
def center (line : String) (width : Nat) : String :=
  "".pushn ' ' ((width - line.length) / 2) ++ line

def render (palette : Palette) (width : Nat) : String :=
  String.join ([welcome, title].map fun block =>
    String.join (block.map fun line => palette.paint .cyan (center line width) ++ "\n") ++ "\n")

end LineShell.Banner
