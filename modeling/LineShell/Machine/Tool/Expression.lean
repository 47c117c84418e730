import LineShell.Machine.Tool.Match

/-!
# Expressions of words

Every word of a command line is a number, a text or an operator.
-/
namespace LineShell.Machine

namespace Expression

inductive Fault where
  /-- The words end too early. -/
  | missing
  | unexpected (word : String)
  | unexpectedParenthesis
  | unclosed (found : Option String)
  | notInteger
  | divisionByZero
  | badPattern (fault : PatternError)

def Fault.message (words : List String) : Fault → String
  | .missing =>
    match words.getLast? with
    | none => withHelp "expr" "expr: missing operand"
    | some word => "expr: syntax error: missing argument after " ++ quoteText word
  | .unexpected word => "expr: syntax error: unexpected argument " ++ quoteText word
  | .unexpectedParenthesis => "expr: syntax error: unexpected ')'"
  | .unclosed (some word) => "expr: syntax error: expecting ')' instead of " ++ quoteText word
  | .unclosed none =>
    "expr: syntax error: expecting ')' after " ++ quoteText (words.getLastD "")
  | .notInteger => "expr: non-integer argument"
  | .divisionByZero => "expr: division by zero"
  | .badPattern fault => "expr: " ++ fault.message

def integer? (word : String) : Option Int :=
  match word.toList with
  | '-' :: c :: cs => if (c :: cs).all Char.isDigit then word.toInt? else none
  | c :: cs => if (c :: cs).all Char.isDigit then word.toInt? else none
  | [] => none

/-- Whether a value counts as false. -/
def isNull (word : String) : Bool :=
  word.isEmpty || match word.toList with
    | '-' :: c :: cs => (c :: cs).all (· == '0')
    | cs => cs.all (· == '0')

/-- What a text is matched to by a pattern from its beginning on. -/
def matched (text pattern : String) : Except Fault String :=
  match Pattern.parse {} (Raw.encode pattern) with
  | .error fault => .error (.badPattern fault)
  | .ok pattern =>
    let line := (Raw.encode text).toArray
    let found := pattern.find? false line (fun a _ => a == 0) 0
    match found, pattern.groupCount with
    | some found, 0 => .ok (toString found.last)
    | none, 0 => .ok "0"
    | some found, _ => .ok (Raw.decode (found.group line 1))
    | none, _ => .ok ""

/-- The value of two words with an operator between them. -/
def apply (operator a b : String) : Except Fault String :=
  let arithmetic (f : Int → Int → Except Fault Int) : Except Fault String :=
    match integer? a, integer? b with
    | some a, some b => (f a b).map toString
    | _, _ => .error .notInteger
  let comparison (test : Ordering → Bool) : Except Fault String :=
    let order := match integer? a, integer? b with
      | some a, some b => compare a b
      | _, _ => compare (Raw.encode a) (Raw.encode b)
    .ok (if test order then "1" else "0")
  match operator with
  | "|" => .ok (if !isNull a then a else if !isNull b then b else "0")
  | "&" => .ok (if isNull a || isNull b then "0" else a)
  | "<" => comparison (· == .lt)
  | "<=" => comparison (· != .gt)
  | "=" | "==" => comparison (· == .eq)
  | "!=" => comparison (· != .eq)
  | ">=" => comparison (· != .lt)
  | ">" => comparison (· == .gt)
  | "+" => arithmetic fun a b => .ok (a + b)
  | "-" => arithmetic fun a b => .ok (a - b)
  | "*" => arithmetic fun a b => .ok (a * b)
  | "/" => arithmetic fun a b => if b = 0 then .error .divisionByZero else .ok (a.tdiv b)
  | "%" => arithmetic fun a b => if b = 0 then .error .divisionByZero else .ok (a.tmod b)
  | _ => matched a b

/-- The operators, those that bind weakest first. -/
def levels : List (List String) :=
  [["|"], ["&"], ["<", "<=", "=", "==", "!=", ">=", ">"], ["+", "-"], ["*", "/", "%"], [":"]]

/-- A part of a text, from a place counted from one. -/
def substring (text : String) (place count : Option Int) : String :=
  match place, count with
  | some p, some n =>
    if p ≤ 0 || n ≤ 0 then ""
    else Raw.decode (((Raw.encode text).drop (p.toNat - 1)).take n.toNat)
  | _, _ => ""

mutual

/-- The value of an expression whose operators bind at least as strongly as a level, and the words
after it. Operators and patterns are applied only if it is `wanted`. -/
def value : Nat → Bool → List (List String) → List String → Except Fault (String × List String)
  | 0, _, _, _ => .error .missing
  | fuel + 1, wanted, [], words => primary fuel wanted words
  | fuel + 1, wanted, level :: tighter, words => do
    let (first, rest) ← value fuel wanted tighter words
    more fuel wanted level tighter first rest

/-- Goes on with the operators of a level after a value. -/
def more : Nat → Bool → List String → List (List String) → String → List String →
    Except Fault (String × List String)
  | 0, _, _, _, first, rest => .ok (first, rest)
  | fuel + 1, wanted, level, tighter, first, rest =>
    match rest with
    | [] => .ok (first, [])
    | operator :: rest =>
      if level.contains operator then do
        let decided := (operator = "|" && !isNull first) || (operator = "&" && isNull first)
        let (second, rest) ← value fuel (wanted && !decided) tighter rest
        let result ← if wanted then apply operator first second else pure first
        more fuel wanted level tighter result rest
      else .ok (first, operator :: rest)

/-- The value of a word, of a function, or of what stands in parentheses. -/
def primary : Nat → Bool → List String → Except Fault (String × List String)
  | 0, _, _ => .error .missing
  | _, _, [] => .error .missing
  | fuel + 1, wanted, word :: rest =>
    let argument (words : List String) := value fuel wanted [] words
    match word with
    | "(" => do
      let (inner, rest) ← value fuel wanted levels rest
      match rest with
      | ")" :: rest => return (inner, rest)
      | rest => throw (.unclosed rest.head?)
    | ")" => .error .unexpectedParenthesis
    | "+" =>
      match rest with
      | [] => .error .missing
      | text :: rest => .ok (text, rest)
    | "length" => do
      let (text, rest) ← argument rest
      return (toString text.utf8ByteSize, rest)
    | "match" => do
      let (text, rest) ← argument rest
      let (pattern, rest) ← argument rest
      return (← if wanted then matched text pattern else pure text, rest)
    | "index" => do
      let (text, rest) ← argument rest
      let (letters, rest) ← argument rest
      let set := Raw.encode letters
      let place := ((Raw.encode text).findIdx? set.contains).elim 0 (· + 1)
      return (toString place, rest)
    | "substr" => do
      let (text, rest) ← argument rest
      let (place, rest) ← argument rest
      let (count, rest) ← argument rest
      return (substring text (integer? place) (integer? count), rest)
    | word => .ok (word, rest)

end

end Expression

def exprTool : Tool := fun args run =>
  let args := if args.head? = some "--" then args.tail else args
  match Expression.value (20 * args.length + 20) true Expression.levels args with
  | .ok (value, []) => (if Expression.isNull value then 1 else 0, run.put (value ++ "\n"))
  | .ok (_, word :: _) => (2, run.complain ((Expression.Fault.unexpected word).message args))
  | .error fault => (2, run.complain (fault.message args))

end LineShell.Machine
