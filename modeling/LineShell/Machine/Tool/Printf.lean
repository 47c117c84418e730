import LineShell.Machine.Tool.Numeral
import LineShell.Machine.Tool.Options

/-!
# Formatted output

The format is used again until all arguments are used up. Missing arguments count as empty, or as
zero.
-/
namespace LineShell.Machine.Printf

/-- What differs between formatters. -/
structure Dialect where
  /-- How complaints begin. -/
  label : String
  /-- Whether it is a program of its own, and not a part of the script interpreter. -/
  standalone : Bool

/-- A conversion in a format. -/
structure Spec where
  flags : List Char
  width : Nat
  precision : Option Nat
  conversion : Char
  /-- The text of the conversion. -/
  text : String

/-- Whether a formatter of its own has the conversion, with these flags. -/
def Spec.isKnown (spec : Spec) : Bool :=
  let flag (c : Char) (refused : String) : Bool :=
    !(spec.flags.contains c && refused.contains spec.conversion)
  "scdiouxXaAeEfFgG".contains spec.conversion && flag '\'' "acAeEosxX" && flag '#' "cdisu"
      && flag '0' "cs" && !(spec.precision.isSome && spec.conversion = 'c')
    || "bq".contains spec.conversion && spec.text.length = 2

/-- What an escape comes to. -/
inductive Escape where
  /-- Some bytes, and how many characters of the escape are read. -/
  | bytes (bytes : Bytes) (count : Nat)
  /-- The end of the output. -/
  | stop
  | fault (complaint : String)

/-- The escape for the character of a code, which is a number of hexadecimal digits. Only the first
characters have bytes of their own. -/
def characterEscape (letter : Char) (count : Nat) (rest : List Char) : Escape :=
  let digits := (rest.take count).takeWhile isHex
  let code := digitsIn 16 digits
  let text := String.ofList (letter :: digits)
  if digits.length < count then .fault "missing hexadecimal number in escape"
  else if 0xd800 ≤ code && code < 0xe000 then .fault ("invalid universal character name \\" ++ text)
  else if code < 128 then .bytes [code.toUInt8] (1 + count)
  else .bytes (92 :: Raw.encode (letter.toString ++ (String.ofList digits).toUpper)) (1 + count)

/-- The escapes that there are beside those of letters and octal numbers. -/
structure EscapeSet where
  /-- Whether a zero may stand before the three digits of an octal number. -/
  zero : Bool
  /-- Whether output can be stopped. -/
  stops : Bool
  /-- Whether a quote can be escaped, and characters written by their codes. -/
  codes : Bool
  /-- Whether there are hexadecimal numbers, and an escape for the escape character. -/
  hexadecimal : Bool

def Dialect.formatEscapes (dialect : Dialect) : EscapeSet :=
  ⟨false, dialect.standalone, dialect.standalone, dialect.standalone⟩

def Dialect.argumentEscapes (dialect : Dialect) : EscapeSet :=
  ⟨true, true, dialect.standalone, dialect.standalone⟩

/-- What the characters after a backslash come to. -/
def escape (set : EscapeSet) (s : List Char) : Escape :=
  match s with
  | 'a' :: _ => .bytes [7] 1
  | 'b' :: _ => .bytes [8] 1
  | 'f' :: _ => .bytes [12] 1
  | 'n' :: _ => .bytes [10] 1
  | 'r' :: _ => .bytes [13] 1
  | 't' :: _ => .bytes [9] 1
  | 'v' :: _ => .bytes [11] 1
  | '\\' :: _ => .bytes [92] 1
  | 'c' :: _ => if set.stops then .stop else .bytes [92, 99] 1
  | '"' :: _ => .bytes (if set.codes then [34] else [92, 34]) 1
  | 'e' :: _ => .bytes (if set.hexadecimal then [27] else [92, 101]) 1
  | [] => .bytes [92] 0
  | c :: rest =>
    let octal :=
      if set.zero && c = '0' then (s.take 4).takeWhile isOctal else (s.take 3).takeWhile isOctal
    if !octal.isEmpty then .bytes [(digitsIn 8 octal).toUInt8] octal.length
    else if set.hexadecimal && c = 'x' then
      let digits := (rest.take 2).takeWhile isHex
      if digits.isEmpty then
        if set.codes then .fault "missing hexadecimal number in escape" else .bytes [92, 120] 1
      else .bytes [(digitsIn 16 digits).toUInt8] (1 + digits.length)
    else if set.codes && c = 'u' then characterEscape 'u' 4 rest
    else if set.codes && c = 'U' then characterEscape 'U' 8 rest
    else .bytes (92 :: Raw.encode c.toString) 1

/-- Text with its escapes replaced. -/
structure Unescaped where
  bytes : Bytes
  /-- Whether output stops at its end. -/
  stops : Bool
  complaint : Option String

def unescapeText (set : EscapeSet) : Nat → List Char → Unescaped
  | 0, _ => ⟨[], false, none⟩
  | _, [] => ⟨[], false, none⟩
  | fuel + 1, '\\' :: rest =>
    match escape set rest with
    | .stop => ⟨[], true, none⟩
    | .fault complaint => ⟨[], true, some complaint⟩
    | .bytes bytes count =>
      let more := unescapeText set fuel (rest.drop count)
      { more with bytes := bytes ++ more.bytes }
  | fuel + 1, c :: rest =>
    let more := unescapeText set fuel rest
    { more with bytes := Raw.encode c.toString ++ more.bytes }

/-- What an argument that should be a number is not. -/
inductive NumberFault where
  | noNumber
  | trailing
  | tooLarge

def NumberFault.message (dialect : Dialect) (arg : String) : NumberFault → String
  | .noNumber =>
    dialect.label ++ if dialect.standalone then quoteText arg ++ ": expected a numeric value"
      else arg ++ ": expected numeric value"
  | .trailing =>
    dialect.label ++ if dialect.standalone then quoteText arg ++ ": value not completely converted"
      else arg ++ ": not completely converted"
  | .tooLarge =>
    dialect.label ++ (if dialect.standalone then quoteText arg else arg)
      ++ ": Numerical result out of range"

/-- The value of a number at the beginning of an argument, with what is wrong with it. -/
def valueOf (zero : α) (arg : String) (found : Option (α × List Char)) : α × Option NumberFault :=
  match found with
  | none => (zero, if arg.isEmpty then none else some .noNumber)
  | some (value, rest) => (value, if rest.isEmpty then none else some .trailing)

/-- The character that an argument quotes, if it does. -/
def quoted? (arg : String) : Option Nat :=
  match arg.toList with
  | '\'' :: _ :: _ | '"' :: _ :: _ => ((Raw.encode arg)[1]?).map UInt8.toNat
  | _ => none

/-- The integer that an argument stands for; without a sign it may be larger. -/
def integerOf (signed : Bool) (arg : String) : Int × Option NumberFault :=
  match quoted? arg with
  | some n => (n, none)
  | none =>
    let (n, fault) := valueOf 0 arg (leadingInteger? arg.toList)
    let (low, high) : Int × Int := 
      if signed then (-Nat.pow 2 63, Nat.pow 2 63 - 1) else (-Nat.pow 2 64 + 1, Nat.pow 2 64 - 1)
    if n < low then (if signed then low else high, some .tooLarge)
    else if high < n then (high, some .tooLarge)
    else (n, fault)

/-- The number with a fraction that an argument stands for. -/
def floatOf (format : FloatFormat) (arg : String) : FloatValue × Option NumberFault :=
  match quoted? arg with
  | some n => (format.value false 10 n 0, none)
  | none => valueOf (.finite false ⟨0, 0⟩) arg (format.leading? arg.toList)

/-- Bytes filled up to a width. -/
def pad (spec : Spec) (bytes : Bytes) : Bytes :=
  let blanks := List.replicate (spec.width - bytes.length) 32
  if spec.flags.contains '-' then bytes ++ blanks else blanks ++ bytes

/-- The sign before a number. -/
def signOf (spec : Spec) (negative : Bool) : String :=
  if negative then "-"
  else if spec.flags.contains '+' then "+"
  else if spec.flags.contains ' ' then " "
  else ""

/-- A number in a radix, with its sign or mark, filled up to a width. -/
def formatNumber (spec : Spec) (n : Int) : Bytes :=
  let size := if n < 0 then (n + Nat.pow 2 64).toNat else n.toNat
  let marked := spec.flags.contains '#' && n ≠ 0
  let (sign, digits) := match spec.conversion with
    | 'o' => ("", (if marked then ['0'] else []) ++ Nat.toDigits 8 size)
    | 'u' => ("", Nat.toDigits 10 size)
    | 'x' => (if marked then "0x" else "", Nat.toDigits 16 size)
    | 'X' => (if marked then "0X" else "", (Nat.toDigits 16 size).map Char.toUpper)
    | _ => (signOf spec (n < 0), Nat.toDigits 10 n.natAbs)
  let digits := if n = 0 && spec.precision = some 0 then [] else digits
  let least := match spec.precision with
    | some p => p
    | none =>
      if spec.flags.contains '0' && !spec.flags.contains '-' then spec.width - sign.length else 0
  let zeros := List.replicate (least - digits.length) '0'
  pad spec (Raw.encode (sign ++ String.ofList (zeros ++ digits)))

/-- A number with a fraction, filled up to a width. -/
def formatFloat (spec : Spec) (value : FloatValue) : Bytes :=
  let text := value.text spec.conversion.toLower (spec.flags.contains '#') spec.precision
  let text := if spec.conversion.isUpper then text.toUpper else text
  let finite := match value with
    | .finite .. => true
    | _ => false
  let mark := if finite && spec.conversion.toLower = 'a' then text.toList.take 2 else []
  let text := String.ofList (text.toList.drop mark.length)
  let sign := signOf spec value.isNegative ++ String.ofList mark
  let zeros :=
    if finite && spec.flags.contains '0' && !spec.flags.contains '-' then
      "".pushn '0' (spec.width - sign.length - text.length)
    else ""
  pad spec (Raw.encode (sign ++ zeros ++ text))

/-- What one use of a format has come to. -/
structure State where
  bytes : Bytes
  args : List String
  /-- The complaints, each with the bytes that come before it. -/
  complaints : List (Bytes × String)
  /-- Whether an argument was used. -/
  used : Bool
  stopped : Bool
  /-- The exit code. -/
  code : Nat

namespace State

def next (state : State) : Option String × State :=
  match state.args with
  | [] => (none, { state with used := true })
  | arg :: args => (some arg, { state with args, used := true })

def add (state : State) (bytes : Bytes) : State :=
  { state with bytes := state.bytes ++ bytes }

/-- Adds a complaint. What is printed before one is gathered, where the formatter is not a program of
its own, and comes after it. -/
def warn (state : State) (dialect : Dialect) (complaint : String) : State :=
  if dialect.standalone then
    { state with bytes := [], complaints := state.complaints ++ [(state.bytes, complaint)] }
  else { state with complaints := state.complaints ++ [([], complaint)] }

def complain (state : State) (dialect : Dialect) (arg : Option String)
    (fault : Option NumberFault) : State :=
  match arg, fault with
  | some arg, some fault => { state.warn dialect (fault.message dialect arg) with code := 1 }
  | _, _ => state

/-- Ends the output for good. -/
def abort (state : State) (dialect : Dialect) (complaint : String) : State :=
  let state := state.warn dialect (dialect.label ++ complaint)
  { state with bytes := [], stopped := true, code := if dialect.standalone then 1 else 2 }

end State

/-- Reads a number of a conversion, which a star takes from the arguments. -/
def readCount (dialect : Dialect) (s : List Char) (state : State) :
    Option Int × List Char × State :=
  match s with
  | '*' :: rest =>
    let (arg, state) := state.next
    let (n, fault) := integerOf true (arg.getD "0")
    (some n, rest, state.complain dialect arg fault)
  | s =>
    let digits := s.takeWhile Char.isDigit
    (if digits.isEmpty then none else some (digitsIn 10 digits), s.dropWhile Char.isDigit, state)

/-- Applies a conversion to the next argument. -/
def convert (dialect : Dialect) (spec : Spec) (state : State) : State :=
  let cut (bytes : Bytes) : Bytes := match spec.precision with
    | some p => bytes.take p
    | none => bytes
  if !(if dialect.standalone then spec.isKnown else "sbcdiouxXeEfFgG".contains spec.conversion) then
    state.abort dialect
      (spec.text ++ if dialect.standalone then ": invalid conversion specification"
        else ": invalid directive")
  else
    let (arg, state) := state.next
    match spec.conversion with
    | 's' => state.add (pad spec (cut (Raw.encode (arg.getD ""))))
    | 'q' => state.add (pad spec (Raw.encode (arg.elim "" quoteWord)))
    | 'b' =>
      let text := (arg.getD "").toList
      let text := unescapeText dialect.argumentEscapes text.length text
      let shown := if dialect.standalone then text.bytes else pad spec (cut text.bytes)
      let state := { state.add shown with stopped := text.stops }
      text.complaint.elim state (state.abort dialect)
    | 'c' => state.add (pad spec [(Raw.encode (arg.getD "")).headD 0])
    | 'd' | 'i' | 'o' | 'u' | 'x' | 'X' =>
      let signed := spec.conversion = 'd' || spec.conversion = 'i'
      let (n, fault) := integerOf signed (arg.getD "0")
      (state.complain dialect arg fault).add (formatNumber spec n)
    | _ =>
      let format := if dialect.standalone then FloatFormat.extended else FloatFormat.double
      let (value, fault) := floatOf format (arg.getD "0")
      (state.complain dialect arg fault).add (formatFloat spec value)

/-- Uses the format once. -/
def once (dialect : Dialect) : Nat → List Char → State → State
  | 0, _, state => state
  | _, [], state => state
  | fuel + 1, '\\' :: rest, state =>
    match escape dialect.formatEscapes rest with
    | .stop => { state with stopped := true }
    | .fault complaint => state.abort dialect complaint
    | .bytes bytes count => once dialect fuel (rest.drop count) (state.add bytes)
  | fuel + 1, '%' :: '%' :: rest, state => once dialect fuel rest (state.add [37])
  | fuel + 1, '%' :: start, state =>
    let isFlag := fun c => ['-', '+', ' ', '0', '#', '\''].contains c
    let flags := start.takeWhile isFlag
    let (width, rest, state) := readCount dialect (start.dropWhile isFlag) state
    let flags := if width.any (· < 0) then '-' :: flags else flags
    let (precision, rest, state) := match rest with
      | '.' :: rest =>
        let (p, rest, state) := readCount dialect rest state
        (if p.any (· < 0) then none else some (p.getD 0).toNat, rest, state)
      | rest => (none, rest, state)
    let rest := if dialect.standalone then rest.dropWhile (fun c => "lLhjtz".contains c) else rest
    match rest with
    | [] =>
      state.abort dialect (if dialect.standalone then
          "%" ++ String.ofList start ++ ": invalid conversion specification"
        else "missing format character")
    | c :: rest =>
      let text := String.ofList ('%' :: start.take (start.length - rest.length))
      let state := convert dialect ⟨flags, (width.getD 0).natAbs, precision, c, text⟩ state
      if state.stopped then state else once dialect fuel rest state
  | fuel + 1, c :: rest, state => once dialect fuel rest (state.add (Raw.encode c.toString))

/-- Uses the format until all arguments are used up. -/
def all (dialect : Dialect) (format : List Char) : Nat → State → State
  | 0, state => state
  | fuel + 1, state =>
    let state := once dialect (format.length + 1) format { state with used := false }
    if state.stopped || state.args.isEmpty then state
    else if !state.used then
      match state.args with
      | arg :: _ =>
        if dialect.standalone then
          state.warn dialect (dialect.label ++ "warning: ignoring excess arguments, starting with "
            ++ quoteText arg)
        else state
      | [] => state
    else all dialect format fuel state

def run (dialect : Dialect) (format : String) (args : List String) (state : Run) : Nat × Run :=
  let result := all dialect format.toList (args.length + 1) ⟨[], args, [], false, false, 0⟩
  let state := result.complaints.foldl (fun (state : Run) (bytes, complaint) =>
    (state.write bytes).complain complaint) state
  (result.code, state.write result.bytes)

def tool : Tool
  | [], state | ["--"], state =>
    (1, state.complain (withHelp "printf" "printf: missing operand"))
  | "--" :: format :: args, state => run ⟨"printf: ", true⟩ format args state
  | format :: args, state => run ⟨"printf: ", true⟩ format args state

end LineShell.Machine.Printf
