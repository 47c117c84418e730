import LineShell.Number.Scientific
import LineShell.Text.Blank

/-!
# Numbers in words

How tools read numbers, and how they write those with fractions.
-/
namespace LineShell.Machine

def isOctal (c : Char) : Bool :=
  '0' ≤ c && c ≤ '7'

/-- Whether a character is a hexadecimal digit. -/
def isHex (c : Char) : Bool :=
  c.isDigit || ('a' ≤ c && c ≤ 'f') || ('A' ≤ c && c ≤ 'F')

def digitsIn (radix : Nat) (cs : List Char) : Nat :=
  cs.foldl (fun n c =>
    n * radix + (if c.isDigit then c.toNat - '0'.toNat else c.toLower.toNat - 'a'.toNat + 10)) 0

/-- A sign and what follows it; the flag tells whether it is a minus sign. -/
def splitSign (s : List Char) : Bool × List Char :=
  match s with
  | '-' :: s => (true, s)
  | '+' :: s => (false, s)
  | s => (false, s)

/-- A text without the white space at its beginning. -/
def afterSpace (s : List Char) : List Char :=
  s.dropWhile fun c => c == ' ' || ('\t' ≤ c && c ≤ '\r')

/-- The integer at the beginning of a text, octal or hexadecimal as its first digits tell, and what
follows it. Without digits there is none. -/
def leadingInteger? (s : List Char) : Option (Int × List Char) :=
  let (negative, s) := splitSign (afterSpace s)
  let signed (n : Nat) : Int := if negative then -(n : Int) else n
  let decimal := s.takeWhile Char.isDigit
  match s with
  | '0' :: x :: d :: rest =>
    if (x = 'x' || x = 'X') && isHex d then
      let digits := (d :: rest).takeWhile isHex
      some (signed (digitsIn 16 digits), (d :: rest).drop digits.length)
    else
      let digits := s.takeWhile isOctal
      some (signed (digitsIn 8 digits), s.drop digits.length)
  | '0' :: _ =>
    let digits := s.takeWhile isOctal
    some (signed (digitsIn 8 digits), s.drop digits.length)
  | _ => if decimal.isEmpty then none else some (signed (digitsIn 10 decimal), s.drop decimal.length)

def integer? (word : String) : Option Int :=
  let (negative, digits) := splitSign word.toList
  if digits.isEmpty || !digits.all Char.isDigit then none
  else some (if negative then -(digitsIn 10 digits : Int) else digitsIn 10 digits)

/-- A number that may have a fraction. -/
inductive FloatValue where
  | finite (negative : Bool) (size : Binary)
  | infinite (negative : Bool)
  | notANumber (negative : Bool)

/-- How many bits numbers have, and what exponent is too high for them. -/
structure FloatFormat where
  bits : Nat
  top : Nat

/-- The format of 53 bits. -/
def FloatFormat.double : FloatFormat := ⟨53, 1024⟩

/-- The format of 64 bits. -/
def FloatFormat.extended : FloatFormat := ⟨64, 16384⟩

/-- The number of a format nearest to `mantissa * base ^ exponent`. -/
def FloatFormat.value (format : FloatFormat) (negative : Bool) (base mantissa : Nat) (exponent : Int) :
    FloatValue :=
  let digits := if mantissa = 0 then 0 else mantissa.log2 + 1
  if mantissa = 0 || exponent + digits < -20000 then .finite negative ⟨0, 0⟩
  else if 20000 < exponent then .infinite negative
  else
    let size := Binary.nearest format.bits (mantissa * Nat.pow base exponent.toNat)
      (Nat.pow base (-exponent).toNat)
    if (format.top : Int) < size.exponent + size.mantissa.log2 + 1 then .infinite negative
    else .finite negative size

/-- The exponent at the beginning of a text, after one of some letters, and what follows it. -/
def leadingExponent (letter : Char) (s : List Char) : Int × List Char :=
  match s with
  | c :: rest =>
    let (negative, digitsAndRest) := splitSign rest
    let digits := digitsAndRest.takeWhile Char.isDigit
    if c.toLower = letter && !digits.isEmpty then
      let n := digitsIn 10 digits
      (if negative then -(n : Int) else n, digitsAndRest.drop digits.length)
    else (0, s)
  | [] => (0, [])

/-- Whether a text begins with a word, whatever the case of its letters. -/
def startsWithWord (word : String) (s : List Char) : Bool :=
  word.toList.isPrefixOf ((s.take word.length).map Char.toLower)

/-- The number at the beginning of a text, and what follows it. Without digits there is none. -/
def FloatFormat.leading? (format : FloatFormat) (s : List Char) :
    Option (FloatValue × List Char) :=
  let (negative, s) := splitSign (afterSpace s)
  let parts (isDigit : Char → Bool) (s : List Char) : List Char × List Char × List Char :=
    let whole := s.takeWhile isDigit
    match s.drop whole.length with
    | '.' :: rest => (whole, rest.takeWhile isDigit, rest.dropWhile isDigit)
    | rest => (whole, [], rest)
  let decimal (_ : Unit) : Option (FloatValue × List Char) :=
    let (whole, places, rest) := parts Char.isDigit s
    if whole.isEmpty && places.isEmpty then none
    else
      let (e, rest) := leadingExponent 'e' rest
      some (format.value negative 10 (digitsIn 10 (whole ++ places)) (e - places.length), rest)
  if startsWithWord "infinity" s then some (.infinite negative, s.drop 8)
  else if startsWithWord "inf" s then some (.infinite negative, s.drop 3)
  else if startsWithWord "nan" s then some (.notANumber negative, s.drop 3)
  else if startsWithWord "0x" s then
    let (whole, places, rest) := parts isHex (s.drop 2)
    if whole.isEmpty && places.isEmpty then decimal ()
    else
      let (e, rest) := leadingExponent 'p' rest
      some (format.value negative 2 (digitsIn 16 (whole ++ places)) (e - 4 * places.length), rest)
  else decimal ()

/-- The sign of a number with fractions. -/
def FloatValue.isNegative : FloatValue → Bool
  | .finite negative _ | .infinite negative | .notANumber negative => negative

/-- The text of a number without its sign, in the style that a letter names. -/
def FloatValue.text (value : FloatValue) (style : Char) (full : Bool) (precision : Option Nat) :
    String :=
  match value with
  | .infinite _ => "inf"
  | .notANumber _ => "nan"
  | .finite _ size =>
    let places := precision.getD 6
    match style with
    | 'a' => size.toHexadecimal ⟨full⟩ precision
    | 'f' =>
      let text := size.toFixed places
      if full && places = 0 then text ++ "." else text
    | 'e' => size.toScientific ⟨full⟩ places
    | _ => size.toGeneral ⟨full⟩ places

end LineShell.Machine
