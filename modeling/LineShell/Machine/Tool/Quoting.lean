import LineShell.Machine.Raw

/-!
# Words in messages

Messages quote the words that they speak of. A name is quoted so that it could stand in a command
line; any other text is quoted with its odd bytes as escapes.
-/
namespace LineShell.Machine

/-- The letter for a byte in a quoted escape. -/
def quotedEscape (b : UInt8) : String :=
  let letters : List (UInt8 × String) := [(7, "\\a"), (8, "\\b"), (9, "\\t"), (10, "\\n"),
    (11, "\\v"), (12, "\\f"), (13, "\\r")]
  match letters.lookup b with
  | some text => text
  | none =>
    let digits := Nat.toDigits 8 b.toNat
    "\\" ++ String.ofList (List.replicate (3 - digits.length) '0' ++ digits)

def isVisible (b : UInt8) : Bool :=
  32 ≤ b && b < 127

/-- A text in single quotes, its odd bytes as escapes. -/
def quoteText (text : String) : String :=
  let shown (b : UInt8) : String :=
    if b = 39 then "\\'" else if b = 92 then "\\\\"
    else if isVisible b then (Char.ofNat b.toNat).toString
    else quotedEscape b
  "'" ++ String.join ((Raw.encode text).map shown) ++ "'"

/-- Whether a byte has a meaning of its own in a command line, wherever it stands. -/
def isSpecialByte (b : UInt8) : Bool :=
  (Raw.encode "!\"$&()*;<=>?[\\^\x60|").contains b

/-- Whether a visible byte, at a place of a word, stands for itself in a command line. Some have a
meaning only at the beginning of a word, and some only on their own. -/
def isPlainByte (bytes : Bytes) (b : UInt8) (place : Nat) : Bool :=
  isVisible b && !isSpecialByte b && b != 32 && b != 39
    && !(place = 0 && (Raw.encode "#~").contains b)
    && !(bytes.length = 1 && (Raw.encode "\x7b\x7d").contains b)

/-- Whether a byte, at a place of a word, is no trouble in double quotes. -/
def suitsDoubleQuotes (bytes : Bytes) (b : UInt8) (place : Nat) : Bool :=
  isVisible b && !isSpecialByte b && !(place != 0 && (Raw.encode "#~").contains b)
    && !(bytes.length != 1 && (Raw.encode "\x7b\x7d").contains b)

/-- Quotes bytes for a command line; `inEscape` tells whether the last byte was an escape. -/
def quotePieces : Bool → Bytes → String
  | _, [] => "'"
  | inEscape, b :: rest =>
    if isVisible b then
      let text := if b = 39 then "'\\''" else (Char.ofNat b.toNat).toString
      (if inEscape then "''" else "") ++ text ++ quotePieces false rest
    else (if inEscape then "" else "'$'") ++ quotedEscape b ++ quotePieces true rest

/-- A name in quotes, as it could stand in a command line. -/
def quoteName (name : String) : String :=
  let bytes := Raw.encode name
  if bytes.contains 39 && bytes.zipIdx.all fun (b, i) => suitsDoubleQuotes bytes b i then
    "\"" ++ name ++ "\""
  else "'" ++ quotePieces false bytes

/-- A word as it can stand in a command line, in quotes if it needs them. -/
def quoteWord (word : String) : String :=
  let bytes := Raw.encode word
  if !bytes.isEmpty && bytes.zipIdx.all fun (b, i) => isPlainByte bytes b i then word
  else quoteName word

/-- A name before a colon, in quotes if it needs them. -/
def quoteLabel (name : String) : String :=
  if name.contains ':' then quoteName name else quoteWord name

end LineShell.Machine
