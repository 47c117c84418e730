import LineShell.Number.Rounding

/-!
# Binary numbers

Non-negative numbers with a mantissa of a number of bits and a binary exponent, each operation giving
the number nearest to the exact result, ties to the even mantissa. The arithmetic has 53 bits. The
exponents that counts of bytes lead to never reach the ends of the range that a double has, so it has
no bound here.
-/
namespace LineShell

/-- The number `mantissa * 2 ^ exponent`. -/
structure Binary where
  mantissa : Nat
  exponent : Int
  deriving Repr, DecidableEq

namespace Binary

/-- The number of some bits nearest to `num / den`. -/
def nearest (bits num den : Nat) : Binary :=
  -- Scaled so that the quotient has more bits than are kept.
  let scale := bits + 11 + den.log2
  let scaled := num <<< scale
  let excess := (scaled / den).log2 + 1 - bits
  ⟨roundDiv scaled (den <<< excess), (excess : Int) - scale⟩

/-- The number of 53 bits nearest to `num / den`. -/
def ofRatio (num den : Nat) : Binary :=
  nearest 53 num den

/-- The number of 53 bits nearest to a natural number. -/
def ofNat (n : Nat) : Binary :=
  ofRatio n 1

/-- The number nearest to a quotient. -/
def div (a b : Binary) : Binary :=
  let q := ofRatio a.mantissa b.mantissa
  ⟨q.mantissa, q.exponent + a.exponent - b.exponent⟩

/-- The number nearest to a product with a natural number that 53 bits can hold. -/
def mulNat (a : Binary) (n : Nat) : Binary :=
  let p := ofNat (a.mantissa * n)
  ⟨p.mantissa, p.exponent + a.exponent⟩

/-- A number divided by a power of two, which is exact. -/
def halve (a : Binary) (times : Nat) : Binary :=
  ⟨a.mantissa, a.exponent - times⟩

def nearestNat (a : Binary) : Nat :=
  roundDiv (a.mantissa * Nat.pow 2 a.exponent.toNat) (Nat.pow 2 (-a.exponent).toNat)

/-- The decimal text with a fixed number of places, rounded from the exact value. -/
def toFixed (places : Nat) (a : Binary) : String :=
  let num := a.mantissa * Nat.pow 2 a.exponent.toNat * Nat.pow 10 places
  let units := roundDiv num (Nat.pow 2 (-a.exponent).toNat)
  let whole := toString (units / Nat.pow 10 places)
  let digits := toString (units % Nat.pow 10 places)
  if places = 0 then whole
  else whole ++ "." ++ "".pushn '0' (places - digits.length) ++ digits

end Binary
end LineShell
