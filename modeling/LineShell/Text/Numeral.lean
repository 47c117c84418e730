/-!
# Numerals

Reading a number below a limit from its digits in some radix. A plus sign may stand in front. The
digits are read from left to right, and the first one that is no digit, or that takes the number
to the limit, decides the error.
-/
namespace LineShell

inductive NumeralError where
  | empty
  | invalidDigit
  | tooLarge
  deriving Repr, DecidableEq

def NumeralError.message : NumeralError → String
  | .empty => "cannot parse integer from empty string"
  | .invalidDigit => "invalid digit found in string"
  | .tooLarge => "number too large to fit in target type"

namespace Numeral

/-- The value of an ASCII digit in a radix up to sixteen. -/
def digitValue? (radix : Nat) (c : Char) : Option Nat :=
  let value :=
    if '0' ≤ c ∧ c ≤ '9' then c.toNat - '0'.toNat
    else if 'a' ≤ c ∧ c ≤ 'f' then c.toNat - 'a'.toNat + 10
    else if 'A' ≤ c ∧ c ≤ 'F' then c.toNat - 'A'.toNat + 10
    else radix
  if value < radix then some value else none

/-- Continues a number with further digits. -/
def extend (radix limit : Nat) : Nat → List Char → Except NumeralError Nat
  | value, [] => .ok value
  | value, c :: cs =>
    match digitValue? radix c with
    | none => .error .invalidDigit
    | some digit =>
      if value * radix + digit < limit then extend radix limit (value * radix + digit) cs
      else .error .tooLarge

/-- The number below `limit` that a numeral stands for. -/
def read (radix limit : Nat) : List Char → Except NumeralError Nat
  | [] => .error .empty
  | ['+'] => .error .invalidDigit
  | '+' :: cs => extend radix limit 0 cs
  | cs => extend radix limit 0 cs

/-- The decimal integer with an optional sign, if it lies between `-limit` and `limit - 1`. -/
def readSigned? (limit : Nat) : List Char → Option Int
  | ['-'] => none
  | '-' :: cs => ((extend 10 (limit + 1) 0 cs).toOption).map fun n => -(n : Int)
  | cs => ((read 10 limit cs).toOption).map fun n => (n : Int)

/-- Whether a number is the scalar value of a character. -/
def toChar? (n : Nat) : Option Char :=
  if n.isValidChar then some (Char.ofNat n) else none

end Numeral
end LineShell
