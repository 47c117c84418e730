import LineShell.Environment.Basic

/-!
# Arithmetic

Expressions over integers of 64 bits, with assignments and choices. A name stands for the number
that its variable holds, or for zero if that holds nothing.
-/
namespace LineShell.Machine.Script

/-- What an expression is made of. -/
inductive Term where
  | number (n : Int)
  | name (text : String)
  | operator (text : String)
  deriving DecidableEq

inductive Expression where
  | number (n : Int)
  | variable (name : String)
  | unary (operator : String) (operand : Expression)
  | binary (operator : String) (left right : Expression)
  /-- Sets a variable, to a value that an operator makes of the old one if there is an operator. -/
  | assign (name operator : String) (value : Expression)
  | choose (test yes no : Expression)

inductive SumError where
  | malformed
  /-- Something follows the expression. -/
  | trailing
  | divisionByZero
  /-- A variable holds something else than a number. -/
  | notNumber (text : String)

def SumError.message (expression : String) : SumError → String
  | .malformed => "arithmetic expression: expecting primary: \"" ++ expression ++ "\""
  | .trailing => "arithmetic expression: expecting EOF: \"" ++ expression ++ "\""
  | .divisionByZero => "arithmetic expression: division by zero: \"" ++ expression ++ "\""
  | .notNumber text => "Illegal number: " ++ text

/-- The operators between two operands, each with its rank; those of a higher rank bind closer. -/
def ranks : List (String × Nat) := [
  ("||", 1), ("&&", 2), ("|", 3), ("^", 4), ("&", 5), ("==", 6), ("!=", 6), ("<=", 7), (">=", 7),
  ("<<", 8), (">>", 8), ("<", 7), (">", 7), ("+", 9), ("-", 9), ("*", 10), ("/", 10), ("%", 10)]

/-- The signs of expressions, those that others begin with after these. -/
def signs : List String := [
  "<<=", ">>=", "||", "&&", "==", "!=", "<=", ">=", "<<", ">>", "+=", "-=", "*=", "/=", "%=", "&=",
  "|=", "^=", "|", "^", "&", "<", ">", "+", "-", "*", "/", "%", "=", "?", ":", "(", ")", "!", "~"]

def valueOf (base : Nat) (digits : List Char) : Nat :=
  digits.foldl (fun n c =>
    n * base + (if c.isDigit then c.toNat - '0'.toNat else c.toLower.toNat - 'a'.toNat + 10)) 0

/-- The number at the front of a text and what follows it: hexadecimal after `0x`, octal after a
zero. -/
def splitNumber (s : List Char) : Nat × List Char :=
  let isOctal := fun c : Char => '0' ≤ c && c ≤ '7'
  let isHex := fun c : Char => c.isDigit || ('a' ≤ c.toLower && c.toLower ≤ 'f')
  let ofDigits (base : Nat) (p : Char → Bool) (s : List Char) : Nat × List Char :=
    (valueOf base (s.takeWhile p), s.dropWhile p)
  match s with
  | '0' :: x :: c :: cs =>
    if (x = 'x' || x = 'X') && isHex c then ofDigits 16 isHex (c :: cs)
    else ofDigits 8 isOctal (x :: c :: cs)
  | '0' :: cs => ofDigits 8 isOctal cs
  | cs => ofDigits 10 Char.isDigit cs

/-- The largest number of 64 bits with a sign. -/
def largest : Int := Nat.pow 2 63 - 1

/-- The number that a variable with some text holds. -/
def numberOf (text : String) : Except SumError Int :=
  let isBlank := fun c : Char => c = ' ' || ('\t' ≤ c && c ≤ '\r')
  let s := text.toList.dropWhile isBlank
  let (negative, s) := match s with
    | '-' :: s => (true, s)
    | '+' :: s => (false, s)
    | s => (false, s)
  let (n, rest) := splitNumber s
  let n : Int := if negative then -(n : Int) else n
  if rest.dropWhile isBlank ≠ [] || (s.isEmpty && text.toList.any fun c => !isBlank c)
      || n < -largest - 1 || largest < n then .error (.notNumber text)
  else .ok n

/-- Cuts an expression into terms; `fuel` bounds their number. -/
def cutSum : Nat → List Char → Option (List Term)
  | 0, _ => none
  | _, [] => some []
  | fuel + 1, c :: cs =>
    let s := c :: cs
    if [' ', '\t', '\n'].contains c then cutSum fuel cs
    else if c.isAlpha || c = '_' then
      let isPart := fun d : Char => d.isAlphanum || d = '_'
      (cutSum fuel (s.dropWhile isPart)).map (.name (String.ofList (s.takeWhile isPart)) :: ·)
    else if c.isDigit then
      let (n, rest) := splitNumber s
      (cutSum fuel rest).map (.number (min n largest) :: ·)
    else
      match signs.find? fun sign => sign.toList.isPrefixOf s with
      | some sign => (cutSum fuel (s.drop sign.length)).map (.operator sign :: ·)
      | none => none

/-- The operator that an assignment applies; a plain one applies none. -/
def assigned? (sign : String) : Option String :=
  if sign = "=" then some ""
  else if ["<<=", ">>=", "+=", "-=", "*=", "/=", "%=", "&=", "|=", "^="].contains sign then
    some (String.ofList sign.toList.dropLast)
  else none

mutual

/-- An expression of any kind at the front of terms, and the terms after it. -/
def assignment : Nat → List Term → Option (Expression × List Term)
  | 0, _ => none
  | fuel + 1, terms =>
    match terms with
    | .name name :: .operator sign :: rest =>
      match assigned? sign with
      | some operator =>
        (assignment fuel rest).map fun (value, rest) => (.assign name operator value, rest)
      | none => choice fuel terms
    | terms => choice fuel terms

/-- An expression without an assignment at its front. -/
def choice : Nat → List Term → Option (Expression × List Term)
  | 0, _ => none
  | fuel + 1, terms =>
    match between fuel 0 terms with
    | some (test, .operator "?" :: rest) =>
      match assignment fuel rest with
      | some (yes, .operator ":" :: rest) =>
        (choice fuel rest).map fun (no, rest) => (.choose test yes no, rest)
      | _ => none
    | result => result

def operand : Nat → List Term → Option (Expression × List Term)
  | 0, _ => none
  | fuel + 1, terms =>
    match terms with
    | .number n :: rest => some (.number n, rest)
    | .name text :: rest => some (.variable text, rest)
    | .operator "(" :: rest =>
      match assignment fuel rest with
      | some (inner, .operator ")" :: rest) => some (inner, rest)
      | _ => none
    | .operator sign :: rest =>
      if ["-", "+", "!", "~"].contains sign then
        (operand fuel rest).map fun (inner, rest) => (.unary sign inner, rest)
      else none
    | [] => none

/-- Operands with operators above a rank between them. -/
def between : Nat → Nat → List Term → Option (Expression × List Term)
  | 0, _, _ => none
  | fuel + 1, rank, terms => do
    let (left, rest) ← operand fuel terms
    continued fuel rank left rest

/-- A first operand with what follows it. -/
def continued : Nat → Nat → Expression → List Term → Option (Expression × List Term)
  | 0, _, _, _ => none
  | fuel + 1, rank, left, terms =>
    match terms with
    | .operator sign :: rest =>
      match ranks.lookup sign with
      | some r =>
        if rank < r then do
          let (right, rest) ← between fuel r rest
          continued fuel rank (.binary sign left right) rest
        else some (left, terms)
      | none => some (left, terms)
    | _ => some (left, terms)

end

/-- The expression that a text spells; an empty one stands for zero. -/
def parseSum (text : List Char) : Except SumError Expression :=
  match cutSum (text.length + 1) text with
  | none => .error .trailing
  | some [] => .ok (.number 0)
  | some terms =>
    match assignment (6 * terms.length + 6) terms with
    | some (expression, []) => .ok expression
    | some _ => .error .trailing
    | none => .error .malformed

/-- A number as 64 bits hold it. -/
def wrap (n : Int) : Int :=
  Int.bmod n (Nat.pow 2 64)

/-- Applies an operator to two operands. Nothing can be divided by zero. -/
def applyOperator (operator : String) (a b : Int) : Except SumError Int :=
  let truth (p : Bool) : Int := if p then 1 else 0
  match operator with
  | "|" => .ok (Int64.ofInt a ||| Int64.ofInt b).toInt
  | "^" => .ok (Int64.ofInt a ^^^ Int64.ofInt b).toInt
  | "&" => .ok (Int64.ofInt a &&& Int64.ofInt b).toInt
  | "==" => .ok (truth (a == b))
  | "!=" => .ok (truth (a != b))
  | "<=" => .ok (truth (a ≤ b))
  | ">=" => .ok (truth (b ≤ a))
  | "<" => .ok (truth (a < b))
  | ">" => .ok (truth (b < a))
  | "<<" => .ok (wrap (a * Nat.pow 2 (b % 64).toNat))
  | ">>" => .ok (a / Nat.pow 2 (b % 64).toNat)
  | "+" => .ok (wrap (a + b))
  | "-" => .ok (wrap (a - b))
  | "*" => .ok (wrap (a * b))
  | "/" => if b = 0 then .error .divisionByZero else .ok (wrap (a.tdiv b))
  | "%" => if b = 0 then .error .divisionByZero else .ok (a.tmod b)
  | _ => .error .malformed

def variableNumber (vars : Environment) (name : String) : Except SumError Int :=
  numberOf ((vars.get? name).getD "")

def Expression.eval (vars : Environment) : Expression → Except SumError (Int × Environment)
  | .number n => .ok (n, vars)
  | .variable name => do return (← variableNumber vars name, vars)
  | .unary operator inner => do
    let (n, vars) ← inner.eval vars
    let n := match operator with
      | "-" => wrap (-n)
      | "!" => if n = 0 then 1 else 0
      | "~" => -n - 1
      | _ => n
    return (n, vars)
  | .binary "&&" left right => do
    let (a, vars) ← left.eval vars
    if a = 0 then return (0, vars)
    let (b, vars) ← right.eval vars
    return (if b = 0 then 0 else 1, vars)
  | .binary "||" left right => do
    let (a, vars) ← left.eval vars
    if a ≠ 0 then return (1, vars)
    let (b, vars) ← right.eval vars
    return (if b = 0 then 0 else 1, vars)
  | .binary operator left right => do
    let (a, vars) ← left.eval vars
    let (b, vars) ← right.eval vars
    return (← applyOperator operator a b, vars)
  | .assign name operator value => do
    let (n, vars) ← value.eval vars
    let n ← if operator = "" then pure n else do
      applyOperator operator (← variableNumber vars name) n
    return (n, vars.set name (toString n))
  | .choose test yes no => do
    let (n, vars) ← test.eval vars
    if n ≠ 0 then yes.eval vars else no.eval vars

/-- The value of the expression that a text spells, and the variables after it. -/
def sum (vars : Environment) (text : List Char) : Except SumError (Int × Environment) :=
  match parseSum text with
  | .ok expression => expression.eval vars
  | .error e => .error e

end LineShell.Machine.Script
