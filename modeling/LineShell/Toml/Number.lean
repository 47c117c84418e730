import LineShell.Text.Numeral
import LineShell.Toml.Lexical

/-!
# Numbers in TOML

Underscores may stand between digits. Integers have 64 bits and may be written in four radixes; a
decimal one has no leading zero. Floats that are too large for a double are refused.
-/
namespace LineShell.Toml

/-- Digits of a radix, without the underscores between them. -/
def digits (radix : Nat) : Scan (List Char) := do
  let isDigit := fun c => (Numeral.digitValue? radix c).isSome
  let first ← Scan.satisfy isDigit
  let more ← Scan.many do
    let _ ← optional (Scan.char '_')
    Scan.satisfy isDigit
  return first :: more

def natOfDigits (radix : Nat) (cs : List Char) : Nat :=
  cs.foldl (fun n c => n * radix + (Numeral.digitValue? radix c).getD 0) 0

/-- An optional sign; `true` stands for minus. -/
def sign : Scan Bool :=
  (do Scan.char '-'; return true) <|> (do Scan.char '+'; return false) <|> return false

/-- The digits of a decimal integer, which begin with a zero only if that is the only one. -/
def decimalDigits : Scan (List Char) := do
  if (← Scan.peek?) = some '0' then
    Scan.char '0'
    return ['0']
  else digits 10

def radixInteger (mark : String) (radix : Nat) : Scan Int := do
  Scan.literal mark
  let n := natOfDigits radix (← digits radix)
  if n < Nat.pow 2 63 then return n else failure

def decimalInteger : Scan Int := do
  let negative ← sign
  let n := natOfDigits 10 (← decimalDigits)
  if negative then
    if n ≤ Nat.pow 2 63 then return -(n : Int) else failure
  else if n < Nat.pow 2 63 then return n else failure

def integer : Scan Int :=
  radixInteger "0x" 16 <|> radixInteger "0o" 8 <|> radixInteger "0b" 2 <|> decimalInteger

def exponent : Scan Int := do
  let _ ← Scan.satisfy fun c => c == 'e' || c == 'E'
  let negative ← sign
  let n := natOfDigits 10 (← digits 10)
  return if negative then -(n : Int) else n

/-- The least number that a double takes for infinite is halfway between the largest double and
the next power of two. -/
def doubleLimit : Nat := Nat.pow 2 1024 - Nat.pow 2 970

/-- Whether `mantissa * 10 ^ scale` is too large for a double. -/
def overflowsDouble (mantissa : Nat) (scale : Int) : Bool :=
  if mantissa = 0 then false
  else if 309 < scale then true
  else if 0 ≤ scale then doubleLimit ≤ mantissa * Nat.pow 10 scale.toNat
  else
    let places := (-scale).toNat
    if (toString mantissa).length + 1 < places then false
    else doubleLimit * Nat.pow 10 places ≤ mantissa

def finiteFloat : Scan Unit := do
  let negative ← sign
  let whole ← decimalDigits
  let (places, scale) ←
    (do return (([] : List Char), ← exponent))
    <|> (do
      Scan.char '.'
      let places ← digits 10
      return (places, (← optional exponent).getD 0))
  let scale := scale - places.length
  if !negative && overflowsDouble (natOfDigits 10 (whole ++ places)) scale then failure

/-- Infinity and what is not a number. -/
def specialFloat : Scan Unit := do
  let _ ← sign
  Scan.literal "inf" <|> Scan.literal "nan"

def float : Scan Unit :=
  finiteFloat <|> specialFloat

end LineShell.Toml
