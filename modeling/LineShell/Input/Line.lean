import LineShell.Text.Blank
import LineShell.Text.Offset
import LineShell.Text.Utf8

/-!
# Input lines

Input is cut into lines at its line feeds, and each line becomes text by itself, so bytes that are
not UTF-8 never make two lines out of one.
-/
namespace LineShell.Input

def lineFeed : UInt8 := 10

/-- The bytes up to the first line feed and with it, and the bytes after it. -/
def splitLine : Bytes → Bytes × Bytes
  | [] => ([], [])
  | b :: rest =>
    if b = lineFeed then ([b], rest)
    else
      let (line, after) := splitLine rest
      (b :: line, after)

/-- The text of a line, without the carriage returns and line feeds at its end. -/
def decodeLine (raw : Bytes) : String :=
  String.ofList (Text.dropEndWhile (fun c => c == '\n' || c == '\r') (Utf8.decodeLossy raw))

/-- The characters that a word under the cursor does not reach over. -/
def isBoundary (c : Char) : Bool :=
  Text.isBlank c || c == '|' || c == '<' || c == '>' || c == '&' || c == '"'

/-- The byte offset of the word that ends at a byte offset. -/
def wordStart (line : List Char) (pos : Nat) : Nat :=
  Text.byteLength (((Text.takeBytes pos line).reverse.dropWhile (!isBoundary ·)).reverse)

end LineShell.Input
