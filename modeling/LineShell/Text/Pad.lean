/-!
# Columns

Text filled up with spaces to the width of a column.
-/
namespace LineShell.Text

/-- Text with as many spaces after it as make it `width` characters long. -/
def padEnd (width : Nat) (s : String) : String :=
  s ++ "".pushn ' ' (width - s.length)

/-- A number with as many zeros before it as make it `width` digits long. -/
def padNumber (width : Nat) (n : Nat) : String :=
  "".pushn '0' (width - (toString n).length) ++ toString n

end LineShell.Text
