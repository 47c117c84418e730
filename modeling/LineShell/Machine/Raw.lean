import LineShell.Path

/-!
# Bytes in words

The words of programs are texts, but what they name and say is bytes. A byte that is no part of a
character in UTF-8 has a character that stands for it, from the end of the last private plane, so
that nothing is lost on the way from bytes to words and back.
-/
namespace LineShell.Machine.Raw

/-- The code point of the first character that stands for a byte. -/
def firstStandIn : Nat := 0x10FF80

/-- The character that stands for a byte beyond ASCII. -/
def standIn (b : UInt8) : Char :=
  Char.ofNat (0x10FF00 + b.toNat)

def encode (word : String) : Bytes :=
  word.toList.flatMap fun c =>
    if firstStandIn ≤ c.toNat then [c.toNat.toUInt8] else Utf8.encode c.toString

/-- The characters of bytes, with one for every byte that is no part of a character. -/
def decodeChars : Bytes → List Char
  | [] => []
  | b :: rest =>
    if b.toNat < 0x80 then Char.ofNat b.toNat :: decodeChars rest
    else
      match Utf8.lead? b with
      | none => standIn b :: decodeChars rest
      | some lead =>
        let next := Utf8.continuation lead.more lead.bits lead.low lead.high rest
        match next.1 with
        | some value =>
          if value < firstStandIn then Char.ofNat value :: decodeChars next.2
          else standIn b :: decodeChars rest
        | none => standIn b :: decodeChars rest
termination_by bytes => bytes.length
decreasing_by
  · exact Nat.lt_succ_self _
  · exact Nat.lt_succ_self _
  · exact Nat.lt_succ_of_le (Utf8.continuation_length_le ..)
  · exact Nat.lt_succ_self _
  · exact Nat.lt_succ_self _

/-- The word of bytes. -/
def decode (bytes : Bytes) : String :=
  String.ofList (decodeChars bytes)

/-- The place that a word names for a program that works in `cwd`. -/
def path (cwd : Path) (word : String) : Path :=
  Path.join cwd (encode word)

/-- The word for an entry of a directory. -/
def below (dir : String) (entry : Bytes) : String :=
  if dir.endsWith "/" then dir ++ decode entry else dir ++ "/" ++ decode entry

end LineShell.Machine.Raw
