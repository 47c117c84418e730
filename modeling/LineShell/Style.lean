/-!
# Tints

Text for a terminal, painted by colour sequences when colours are wanted.
-/
namespace LineShell

/-- When to use colours; `auto` uses them on a terminal. -/
inductive ColorMode where
  | auto
  | always
  | never
  deriving Repr, DecidableEq

/-- The colours that the shell paints with. -/
inductive Tint where
  | red
  | green
  | yellow
  | purple
  | cyan
  deriving Repr, DecidableEq

/-- The place of a tint among the colours of a terminal. -/
def Tint.index : Tint → Nat
  | .red => 1
  | .green => 2
  | .yellow => 3
  | .purple => 5
  | .cyan => 6

/-- Whether texts are painted. -/
structure Palette where
  enabled : Bool
  deriving Repr, DecidableEq

namespace Palette

/-- The palette for a mode, given whether the output is a terminal. -/
def ofMode (terminal : Bool) : ColorMode → Palette
  | .always => ⟨true⟩
  | .never => ⟨false⟩
  | .auto => ⟨terminal⟩

def start (tint : Tint) : String :=
  "\x1b[38;5;" ++ toString tint.index ++ "m"

/-- The sequence that goes back to the default colour. -/
def reset : String := "\x1b[39m"

def paint (palette : Palette) (tint : Tint) (text : String) : String :=
  if palette.enabled then start tint ++ text ++ reset else text

theorem paint_of_not_enabled {palette : Palette} (h : palette.enabled = false) (tint : Tint)
    (text : String) : palette.paint tint text = text := by
  simp [paint, h]

end Palette

/-- The sequences that clear a terminal and put the cursor into its first corner. -/
def clearScreen : String := "\x1b[2J\x1b[1;1H"

end LineShell
