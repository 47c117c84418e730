import LineShell.Number.Binary
import LineShell.Text.Blank
import LineShell.Text.Numeral

/-!
# Memory and disk usage

Counts of bytes are 64-bit words. A memory table has one figure a line in units of 1024 bytes; the
first line of a key counts.
-/
namespace LineShell

/-- The byte counts of a memory or of a disk. -/
structure Usage where
  total : UInt64
  used : UInt64
  available : UInt64
  deriving Repr, DecidableEq

namespace Usage

/-- The difference of two words, zero when the second is the larger. -/
def saturatingSub (a b : UInt64) : UInt64 :=
  if b ≤ a then a - b else 0

/-- The used share of what is used or available, in percent. -/
def percent (usage : Usage) : Binary :=
  let denominator := usage.used + usage.available
  if denominator = 0 then ⟨0, 0⟩
  else ((Binary.ofNat usage.used.toNat).div (Binary.ofNat denominator.toNat)).mulNat 100

/-- A count of bytes in units of 2^30 bytes. -/
def gigabytes (bytes : UInt64) : String :=
  ((Binary.ofNat bytes.toNat).halve 30).toFixed 2 ++ " GB"

def firstField (s : List Char) : List Char :=
  (s.dropWhile Text.isBlank).takeWhile (!Text.isBlank ·)

/-- The lines of a text; a carriage return before a line feed belongs to the line's end. -/
def lines (s : List Char) : List (List Char) :=
  let pieces := s.splitOn '\n'
  let closed := pieces.dropLast.map fun piece =>
    if piece.getLast? = some '\r' then piece.dropLast else piece
  match pieces.getLast? with
  | none | some [] => closed
  | some last => closed ++ [last]

/-- What follows a key and its colon. -/
def afterKey? (key : String) (line : List Char) : Option (List Char) :=
  let start := key.toList ++ [':']
  if start.isPrefixOf line then some (line.drop start.length) else none

/-- The figure of a key in bytes, modulo 2^64: the first field of the first line of that key. -/
def figure? (table : List Char) (key : String) : Option UInt64 := do
  let rest ← (lines table).findSome? (afterKey? key)
  let units ← (Numeral.read 10 (Nat.pow 2 64) (firstField rest)).toOption
  return units.toUInt64 * 1024

/-- The usage that a memory table tells. What is free stands in for what is available when the
table has no usable figure for that. -/
def ofTable? (table : String) : Option Usage := do
  let total ← figure? table.toList "MemTotal"
  let available ←
    (figure? table.toList "MemAvailable").or (figure? table.toList "MemFree")
  return ⟨total, saturatingSub total available, available⟩

end Usage
end LineShell
