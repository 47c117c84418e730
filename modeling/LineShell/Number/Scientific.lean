import LineShell.Number.Binary

/-!
# Decimal texts of binary numbers

Numbers are written with an exponent or without, rounded from the exact value.
-/
namespace LineShell.Binary

/-- The exact value as a quotient. -/
def ratio (a : Binary) : Nat × Nat :=
  (a.mantissa * Nat.pow 2 a.exponent.toNat, Nat.pow 2 (-a.exponent).toNat)

/-- The integer nearest to the value times a power of ten. -/
def scaled (a : Binary) (places : Int) : Nat :=
  let (num, den) := a.ratio
  roundDiv (num * Nat.pow 10 places.toNat) (den * Nat.pow 10 (-places).toNat)

/-- The exponent of the highest power of ten that is not above the value. -/
def decimalExponent (a : Binary) : Int :=
  let (num, den) := a.ratio
  let guess : Int := (toString num).length - (toString den).length
  if den * Nat.pow 10 guess.toNat ≤ num * Nat.pow 10 (-guess).toNat then guess else guess - 1

/-- The digits of the value, one more than `places`, and the exponent of the first one. -/
def leadingDigits (a : Binary) (places : Nat) : String × Int :=
  if a.mantissa = 0 then ("".pushn '0' (places + 1), 0)
  else
    let e := a.decimalExponent
    let n := a.scaled (places - e)
    if n < Nat.pow 10 (places + 1) then (toString n, e) else (toString (n / 10), e + 1)

/-- How numbers with exponents are written. -/
structure ScientificStyle where
  /-- Whether a point stands even where nothing follows it, and zeros at the end stay. -/
  full : Bool

/-- Digits with a point after some of them. -/
def pointed (style : ScientificStyle) (whole places : String) : String :=
  if places.isEmpty then (if style.full then whole ++ "." else whole) else whole ++ "." ++ places

/-- An exponent of two digits at least. -/
def exponentText (e : Int) : String :=
  let digits := toString e.natAbs
  (if e < 0 then "e-" else "e+") ++ "".pushn '0' (2 - digits.length) ++ digits

/-- The text in hexadecimal digits, of which the first stands for four bits of 64, with an exponent
of two. -/
def toHexadecimal (style : ScientificStyle) (places : Option Nat) (a : Binary) : String :=
  let (digits, e) : List Char × Int :=
    if a.mantissa = 0 then (['0'], 0)
    else
      let shift := 63 - a.mantissa.log2
      let mantissa := a.mantissa <<< shift
      let kept := min (places.getD 15) 15
      let units := roundDiv mantissa (Nat.pow 16 (15 - kept))
      let e := a.exponent - shift + 60
      if units < Nat.pow 16 (kept + 1) then (Nat.toDigits 16 units, e)
      else (Nat.toDigits 16 (units / 2), e + 1)
  let rest := digits.drop 1
  let rest := match places with
    | some n => rest ++ List.replicate (n - rest.length) '0'
    | none => (rest.reverse.dropWhile (· == '0')).reverse
  pointed style (String.ofList ('0' :: 'x' :: digits.take 1)) (String.ofList rest)
    ++ (if e < 0 then "p-" else "p+") ++ toString e.natAbs

/-- The text with an exponent. -/
def toScientific (style : ScientificStyle) (places : Nat) (a : Binary) : String :=
  let (digits, e) := a.leadingDigits places
  let digits := digits.toList
  pointed style (String.ofList (digits.take 1)) (String.ofList (digits.drop 1)) ++ exponentText e

def withoutZeros (digits : List Char) : List Char :=
  (digits.reverse.dropWhile (· == '0')).reverse

/-- The text with some digits, with an exponent where it would be shorter. -/
def toGeneral (style : ScientificStyle) (precision : Nat) (a : Binary) : String :=
  let precision := max precision 1
  let (digits, e) := a.leadingDigits (precision - 1)
  let digits := digits.toList
  let kept := if style.full then id else withoutZeros
  if e < -4 || (precision : Int) ≤ e then
    pointed style (String.ofList (digits.take 1)) (String.ofList (kept (digits.drop 1)))
      ++ exponentText e
  else if e < 0 then
    pointed style "0"
      (String.ofList (kept (List.replicate (-e - 1).toNat '0' ++ digits)))
  else
    pointed style (String.ofList (digits.take (e.toNat + 1)))
      (String.ofList (kept (digits.drop (e.toNat + 1))))

end LineShell.Binary
