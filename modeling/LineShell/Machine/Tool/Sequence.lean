import LineShell.Machine.Tool.Printf

/-!
# Sequences of numbers

Numbers are decimal and exact. They are written with as many places as the first one and the step
have.
-/
namespace LineShell.Machine

namespace Sequence

/-- The number `mantissa / 10 ^ scale`, with the places and the width it is written with. -/
structure Decimal where
  mantissa : Int
  scale : Nat
  places : Nat
  width : Nat

/-- The hexadecimal integer that a text stands for. -/
def hexadecimal? (s : List Char) : Option Decimal :=
  let (negative, rest) := splitSign s
  match rest with
  | '0' :: x :: digits =>
    if x.toLower = 'x' && !digits.isEmpty && digits.all isHex then
      let n := digitsIn 16 digits
      some ⟨if negative then -(n : Int) else n, 0, 0, 0⟩
    else none
  | _ => none

/-- The decimal number that a text stands for. -/
def decimal? (s : List Char) : Option Decimal :=
  let (negative, rest) := splitSign s
  let whole := rest.takeWhile Char.isDigit
  let (pointed, places, rest) := match rest.drop whole.length with
    | '.' :: rest => (true, rest.takeWhile Char.isDigit, rest.dropWhile Char.isDigit)
    | rest => (false, [], rest)
  let (e, rest) := leadingExponent 'e' rest
  if !rest.isEmpty || (whole.isEmpty && places.isEmpty) || 1000 < e.natAbs then none
  else
    let digits := digitsIn 10 (whole ++ places)
    let signed : Int := if negative then -(digits : Int) else digits
    let point : Int := places.length - e
    let width := (if negative then 1 else 0) + max whole.length 1
      + if pointed && !places.isEmpty then places.length + 1 else 0
    some ⟨signed * Nat.pow 10 (-point).toNat, point.toNat, point.toNat, width⟩

def number? (word : String) : Option Decimal :=
  let s := (afterSpace word.toList).dropWhile fun c => c == '+' || c.isWhitespace
  (hexadecimal? s).orElse fun _ => decimal? s

def Decimal.rescale (d : Decimal) (scale : Nat) : Int :=
  d.mantissa * Nat.pow 10 (scale - d.scale)

/-- The text of `mantissa / 10 ^ scale` with some places, filled up with zeros to a width. -/
def text (scale places width : Nat) (mantissa : Int) : String :=
  let units := roundDiv (mantissa.natAbs * Nat.pow 10 places) (Nat.pow 10 scale)
  let sign := if mantissa < 0 then "-" else ""
  let digits := toString units
  let digits := "".pushn '0' (places + 1 - digits.length) ++ digits
  let whole := String.ofList (digits.toList.take (digits.length - places))
  let body := if places = 0 then whole
    else whole ++ "." ++ String.ofList (digits.toList.drop (digits.length - places))
  sign ++ "".pushn '0' (width - sign.length - body.length) ++ body

/-- The numbers from one to another in steps. -/
def progression (first step last : Int) : List Int :=
  let count := (last - first).fdiv step
  if step = 0 || count < 0 then []
  else (List.range (count.toNat + 1)).map fun (i : Nat) => first + step * i

/-- The directives in a format, each as what stands between its mark and its letter, and its
letter. -/
def directives : Nat → List Char → List (List Char × Option Char)
  | 0, _ => []
  | _, [] => []
  | fuel + 1, '%' :: '%' :: rest => directives fuel rest
  | fuel + 1, '%' :: rest =>
    let inner := rest.takeWhile fun c => "-+ 0#'123456789.".contains c
    (inner, (rest.drop inner.length).head?) :: directives fuel (rest.drop (inner.length + 1))
  | fuel + 1, _ :: rest => directives fuel rest

def formatFault? (format : String) : Option String :=
  let shown := "seq: format " ++ quoteText format ++ " "
  match directives format.length format.toList with
  | [] => some (shown ++ "has no % directive")
  | [(_, none)] => some (shown ++ "ends in %")
  | (_, some c) :: rest =>
    if !"aAeEfFgG".contains c then some (shown ++ "has unknown %" ++ c.toString ++ " directive")
    else if rest.isEmpty then none
    else some (shown ++ "has too many % directives")
  | _ => some (shown ++ "has too many % directives")

end Sequence

def seqTable : OptionTable where
  flags := "w"
  valued := "fs"
  long := [("equal-width", 'w'), ("format", 'f'), ("separator", 's')]
  leading := true

/-- Whether a word is a number with a minus sign. -/
def isNegativeNumber (word : String) : Bool :=
  match word.toList with
  | '-' :: c :: _ => c.isDigit || c == '.'
  | _ => false

def seqTool : Tool := fun args run =>
  -- A number with a minus sign is no option.
  let isOption (word : String) : Bool := word.startsWith "-" && !isNegativeNumber word
  let splitAt := args.findIdx fun a => !isOption a
  let valueNext := splitAt ≠ 0 && ["-s", "-f"].contains (args.getD (splitAt - 1) "")
  let later := args.drop splitAt
  let cut := if valueNext then splitAt + 1 + (args.drop (splitAt + 1)).findIdx fun a => !isOption a
    else splitAt
  let args := if (args.take cut).contains "--" || later.isEmpty then args
    else args.take cut ++ "--" :: args.drop cut
  withOptions "seq" 1 seqTable (fun parsed run =>
    let help (complaint : String) : Nat × Run := (1, run.complain (withHelp "seq" complaint))
    let print (first step last : Sequence.Decimal) : Nat × Run :=
      let scale := max first.scale (max step.scale last.scale)
      let places := max first.places step.places
      let widen (d : Sequence.Decimal) : Nat :=
        let point := (if d.places = 0 && places ≠ 0 then 1 else 0 : Int)
          - if d.places ≠ 0 && places = 0 then 1 else 0
        ((d.width : Int) + places - d.places + point).toNat
      let width := if parsed.has 'w' then max (widen first) (widen last) else 0
      let numbers :=
        Sequence.progression (first.rescale scale) (step.rescale scale) (last.rescale scale)
      let shown (n : Int) : String := match parsed.value? 'f' with
        | none => Sequence.text scale places width n
        | some format =>
          let word := Sequence.text scale scale 0 n
          let state := Printf.once ⟨"", true⟩ (format.length + 1) format.toList
            ⟨[], [word], [], false, false, 0⟩
          Raw.decode state.bytes
      let separator := (parsed.value? 's').getD "\n"
      if numbers.isEmpty then (0, run)
      else (0, run.put (separator.intercalate (numbers.map shown) ++ "\n"))
    let bad (operands : List String) : Option (Nat × Run) :=
      (operands.find? fun a => (Sequence.number? a).isNone).map fun word =>
        help ("seq: invalid floating point argument: " ++ quoteText word)
    match parsed.operands, (parsed.value? 'f').bind Sequence.formatFault? with
    | [], _ => help "seq: missing operand"
    | _ :: _ :: _ :: extra :: _, _ => help ("seq: extra operand " ++ quoteText extra)
    | _, some fault => (1, run.complain fault)
    | operands, none =>
      if parsed.has 'w' && (parsed.value? 'f').isSome then
        help "seq: format string may not be specified when printing equal width strings"
      else
        let one : Sequence.Decimal := ⟨1, 0, 0, 1⟩
        let step := (operands.drop 1).dropLast.filterMap Sequence.number?
        match bad (operands.take 2), step.any (·.mantissa = 0), bad operands with
        | some result, _, _ => result
        | none, true, _ =>
          help ("seq: invalid Zero increment value: " ++ quoteText (operands.getD 1 ""))
        | none, false, some result => result
        | none, false, none =>
          match operands.filterMap Sequence.number? with
          | [last] => print one one last
          | [first, last] => print first one last
          | [first, step, last] => print first step last
          | _ => (1, run)) args run

end LineShell.Machine
