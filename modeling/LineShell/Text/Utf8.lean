/-!
# UTF-8

Bytes as text and text as bytes. A strict reader refuses bytes that are not UTF-8; a lossy one
puts U+FFFD for every maximal part that begins a character without completing it, and for every
byte that begins none.
-/
namespace LineShell

/-- The contents of a file or of a stream. -/
abbrev Bytes := List UInt8

namespace Utf8

def encode (s : String) : Bytes :=
  s.toByteArray.data.toList

/-- The text of well-formed bytes. -/
def decode? (bytes : Bytes) : Option String :=
  String.fromUTF8? ⟨bytes.toArray⟩

theorem decode?_encode (s : String) : decode? (encode s) = some s := by
  rw [decode?, encode, Array.toArray_toList, String.fromUTF8?, dif_pos s.isValidUTF8]
  rfl

def replacement : Char := '\ufffd'

/-- What the first byte of a longer sequence fixes: the bits it gives, the range of the second
byte, and how many bytes follow. -/
structure Lead where
  bits : Nat
  low : Nat
  high : Nat
  more : Nat
  deriving Repr, DecidableEq

/-- The sequence that a byte can begin, if it can begin one of several bytes. The ranges leave out
overlong forms, surrogates, and what lies beyond the last code point. -/
def lead? (b : UInt8) : Option Lead :=
  let n := b.toNat
  if n < 0xC2 then none
  else if n < 0xE0 then some ⟨n - 0xC0, 0x80, 0xBF, 1⟩
  else if n = 0xE0 then some ⟨0, 0xA0, 0xBF, 2⟩
  else if n = 0xED then some ⟨0xD, 0x80, 0x9F, 2⟩
  else if n < 0xF0 then some ⟨n - 0xE0, 0x80, 0xBF, 2⟩
  else if n = 0xF0 then some ⟨0, 0x90, 0xBF, 3⟩
  else if n < 0xF4 then some ⟨n - 0xF0, 0x80, 0xBF, 3⟩
  else if n = 0xF4 then some ⟨4, 0x80, 0x8F, 3⟩
  else none

/-- Reads up to `more` continuation bytes, the first of them between `low` and `high`. Gives the
value if all are there, and what follows those that are. -/
def continuation : Nat → Nat → Nat → Nat → Bytes → Option Nat × Bytes
  | 0, value, _, _, rest => (some value, rest)
  | _ + 1, _, _, _, [] => (none, [])
  | more + 1, value, low, high, b :: rest =>
    if low ≤ b.toNat ∧ b.toNat ≤ high then
      continuation more (value * 64 + b.toNat % 64) 0x80 0xBF rest
    else (none, b :: rest)

theorem continuation_length_le (more value low high : Nat) (bytes : Bytes) :
    (continuation more value low high bytes).2.length ≤ bytes.length := by
  induction more generalizing value low high bytes with
  | zero => simp [continuation]
  | succ more ih =>
    cases bytes with
    | nil => simp [continuation]
    | cons b rest =>
      rw [continuation]
      split
      · exact Nat.le_succ_of_le (ih ..)
      · exact Nat.le_refl _

/-- The text of bytes, with a replacement character for each part that is not UTF-8. -/
def decodeLossy : Bytes → List Char
  | [] => []
  | b :: rest =>
    if b.toNat < 0x80 then Char.ofNat b.toNat :: decodeLossy rest
    else
      match lead? b with
      | none => replacement :: decodeLossy rest
      | some lead =>
        let next := continuation lead.more lead.bits lead.low lead.high rest
        next.1.elim replacement Char.ofNat :: decodeLossy next.2
termination_by bytes => bytes.length
decreasing_by
  · exact Nat.lt_succ_self _
  · exact Nat.lt_succ_self _
  · exact Nat.lt_succ_of_le (continuation_length_le ..)

/-- The text of bytes as a string, with replacement characters. -/
def lossy (bytes : Bytes) : String :=
  String.ofList (decodeLossy bytes)

end Utf8
end LineShell
