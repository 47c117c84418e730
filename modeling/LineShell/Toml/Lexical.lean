import LineShell.Text.Scan

/-!
# Blanks, comments and line ends in TOML
-/
namespace LineShell.Toml

/-- A space or a tab. -/
def isWhite (c : Char) : Bool :=
  c == ' ' || c == '\t'

/-- The characters that may stand in comments and in literal strings: all but the control
characters other than the tab. -/
def isPrintable (c : Char) : Bool :=
  c == '\t' || (' ' ≤ c && c != '\x7f')

/-- Blanks within a line. -/
def white : Scan Unit := do
  let _ ← Scan.run isWhite

/-- The end of a line that another may follow. -/
def newline : Scan Unit :=
  Scan.literal "\n" <|> Scan.literal "\x0d\n"

/-- A comment up to the end of its line. -/
def comment : Scan Unit := do
  Scan.char '#'
  let _ ← Scan.run isPrintable

/-- The end of a line, or of the text. -/
def lineEnd : Scan Unit :=
  newline <|> Scan.atEnd

/-- What may follow an expression on its line. -/
def lineTrailing : Scan Unit := do
  white
  let _ ← optional comment
  lineEnd

/-- Blanks, line ends and comments between the items of an array. -/
def spacing : Scan Unit := do
  let _ ← Scan.many ((do let _ ← Scan.run1 isWhite) <|> newline <|> comment)

end LineShell.Toml
