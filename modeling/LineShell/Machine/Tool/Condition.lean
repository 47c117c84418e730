import LineShell.FileSystem.Access
import LineShell.Machine.Tool.Print

/-!
# Conditions

Tests of files, texts and numbers, and their combinations. There are two readers of conditions, that
of the script interpreter and that of the tool. They differ in where a word may be an operator.
-/
namespace LineShell.Machine

def unaryOperators : List String := [
  "-b", "-c", "-d", "-e", "-f", "-g", "-h", "-k", "-n", "-p", "-r", "-s", "-t", "-u", "-w", "-x",
  "-z", "-G", "-L", "-O", "-S"]

def binaryOperators : List String := [
  "=", "==", "!=", "<", ">", "-eq", "-ne", "-lt", "-le", "-gt", "-ge", "-nt", "-ot", "-ef"]

def unaryTest (run : Run) (operator operand : String) : Bool :=
  let path := run.resolve operand
  let fs := run.files
  match operator with
  | "-n" => operand ≠ ""
  | "-z" => operand = ""
  | "-e" | "-r" | "-w" | "-O" | "-G" => fs.pathExists path
  | "-f" => fs.isFile path
  | "-d" => fs.isDir path
  | "-s" =>
    match fs.resolve path with
    | .ok (_, .file content _) => !content.isEmpty
    | .ok (_, .dir _) => true
    | _ => false
  | "-x" =>
    match fs.resolve path with
    | .ok (_, .file _ x) => x
    | .ok (_, .dir _) => true
    | _ => false
  | "-L" | "-h" =>
    match fs.locate .keep path with
    | .ok (.found _ (.link _) _ _) => true
    | _ => false
  | "-c" =>
    match fs.resolve path with
    | .ok (_, .device) => true
    | _ => false
  | _ => false

/-- The wording of complaints about conditions. -/
structure ConditionWording where
  badNumber : String → String
  /-- Whether a file that is there is newer than one that is not. -/
  olderIfMissing : Bool

/-- The number that a word is, with blanks around it. -/
def conditionNumber (wording : ConditionWording) (word : String) : Except String Int :=
  match integer? (Text.trim word) with
  | some n => .ok n
  | none => .error (wording.badNumber word)

def binaryTest (wording : ConditionWording) (run : Run) (left operator right : String) :
    Except String Bool :=
  let fs := run.files
  let isThere (word : String) : Bool := fs.pathExists (run.resolve word)
  let isNewer (a b : String) : Bool := wording.olderIfMissing && isThere a && !isThere b
  let numbers (f : Int → Int → Bool) : Except String Bool := do
    return f (← conditionNumber wording left) (← conditionNumber wording right)
  match operator with
  | "=" | "==" => .ok (left == right)
  | "!=" => .ok (left != right)
  | "<" => .ok (decide (left < right))
  | ">" => .ok (decide (right < left))
  | "-eq" => numbers fun a b => a == b
  | "-ne" => numbers fun a b => a != b
  | "-lt" => numbers fun a b => decide (a < b)
  | "-le" => numbers fun a b => decide (a ≤ b)
  | "-gt" => numbers fun a b => decide (b < a)
  | "-ge" => numbers fun a b => decide (b ≤ a)
  | "-nt" => .ok (isNewer left right)
  | "-ot" => .ok (isNewer right left)
  | _ =>
    match fs.resolve (run.resolve left), fs.resolve (run.resolve right) with
    | .ok (a, _), .ok (b, _) => .ok (a == b)
    | _, _ => .ok false

namespace ScriptCondition

/-- How the script interpreter words its complaints. -/
def wording : ConditionWording := ⟨("Illegal number: " ++ ·), false⟩

/-- What a word is where a condition may begin or go on. -/
inductive Token where
  | ending
  | operand
  | unary
  | binary
  | negation
  | conjunction
  | disjunction
  | opening
  | closing
  deriving DecidableEq

/-- What the first of some words is. An operator with one operand is none if no operand follows, or
if an operator with two operands does. -/
def token (words : List String) : Token :=
  match words with
  | [] => .ending
  | "!" :: _ => .negation
  | "-a" :: _ => .conjunction
  | "-o" :: _ => .disjunction
  | ["("] => .operand
  | "(" :: _ => .opening
  | ")" :: _ => .closing
  | word :: rest =>
    if binaryOperators.contains word then .binary
    else if unaryOperators.contains word then
      match rest with
      | [] => .operand
      | [_] => .unary
      | next :: _ :: _ => if binaryOperators.contains next then .operand else .unary
    else .operand

/-- The value of a condition, and the words from the last one on that belongs to it. -/
abbrev Result := Except String (Bool × List String)

mutual

/-- Conditions of which one has to hold; `kind` is what the first word is. -/
def anyOf (run : Run) : Nat → Token → List String → Result
  | 0, _, _ => .error "too many arguments"
  | fuel + 1, kind, words => do
    let (first, last) ← allOf run fuel kind words
    if token last.tail = .disjunction then
      let rest := last.drop 2
      let (second, last) ← anyOf run fuel (token rest) rest
      return (first || second, last)
    else return (first, last)

/-- Conditions all of which have to hold. -/
def allOf (run : Run) : Nat → Token → List String → Result
  | 0, _, _ => .error "too many arguments"
  | fuel + 1, kind, words => do
    let (first, last) ← negated run fuel kind words
    if token last.tail = .conjunction then
      let rest := last.drop 2
      let (second, last) ← allOf run fuel (token rest) rest
      return (first && second, last)
    else return (first, last)

def negated (run : Run) : Nat → Token → List String → Result
  | 0, _, _ => .error "too many arguments"
  | fuel + 1, kind, words =>
    if kind = .negation then
      let next := token words.tail
      let rest := if next = .ending then words else words.tail
      (negated run fuel next rest).map fun (b, last) => (!b, last)
    else simple run fuel kind words

/-- A condition that has no others beside it. -/
def simple (run : Run) : Nat → Token → List String → Result
  | 0, _, _ => .error "too many arguments"
  | fuel + 1, kind, words =>
    match kind, words with
    | .ending, words => .ok (false, words)
    | .opening, _ :: rest => do
      let next := token rest
      if next = .closing then return (false, rest)
      let (b, last) ← anyOf run fuel next rest
      if token last.tail = .closing then return (b, last.tail)
      throw "closing paren expected"
    | .unary, operator :: operand :: rest =>
      .ok (unaryTest run operator operand, operand :: rest)
    | .unary, operator :: [] => .error (operator ++ ": argument expected")
    | _, left :: operator :: rest =>
      if token (operator :: rest) = .binary then
        match rest with
        | right :: rest =>
          (binaryTest wording run left operator right).map fun b => (b, right :: rest)
        | [] => .error (operator ++ ": argument expected")
      else .ok (left ≠ "", left :: operator :: rest)
    | _, [word] => .ok (word ≠ "", [word])
    | _, [] => .ok (false, [])

end

/-- The value of a condition. The kind of the first word is given where that is known. -/
def evaluate (run : Run) (kind : Option Token) (words : List String) : Except String Bool :=
  match anyOf run (4 * words.length + 8) (kind.getD (token words)) words with
  | .error e => .error e
  | .ok (b, last) =>
    match last with
    | word :: _ :: _ =>
      .error ((if word = "" then "" else word ++ ": ") ++ "unexpected operator")
    | _ => .ok b

/-- The value of a condition. Up to four words are read by rules of their own. -/
def value (run : Run) : List String → Except String Bool
  | [] => .ok false
  | [left, operator, right] =>
    if binaryOperators.contains operator then evaluate run (some .operand) [left, operator, right]
    else if left = "(" && right = ")" then evaluate run none [operator]
    else if left = "!" then (value run [operator, right]).map (!·)
    else evaluate run none [left, operator, right]
  | ["(", a, b, ")"] => evaluate run none [a, b]
  | ["!", a, b, c] => (value run [a, b, c]).map (!·)
  | words => evaluate run none words
termination_by words => words.length

end ScriptCondition

/-- The condition command of the script interpreter. -/
def scriptTest (label : String) : Tool := fun args run =>
  match ScriptCondition.value run args with
  | .ok b => (codeOf b, run)
  | .error complaint => (2, run.complain (label ++ complaint))

/-- The condition command that ends in a bracket. -/
def scriptBracket (label : String) : Tool := fun args run =>
  if args.getLast? = some "]" then scriptTest label args.dropLast run
  else (2, run.complain (label ++ "missing ]"))

namespace ToolCondition

def wording : ConditionWording := ⟨fun word => "invalid integer " ++ quoteText word, true⟩

def operators : List String :=
  binaryOperators.filter fun o => o != "<" && o != ">"

/-- The value of a condition, and the words after it. -/
abbrev Result := Except String (Bool × List String)

/-- A test with one operand, whose operator is a letter after a dash. -/
def unary (run : Run) : List String → Result
  | operator :: rest =>
    if !unaryOperators.contains operator then
      .error (quoteText operator ++ ": unary operator expected")
    else
      match rest with
      | operand :: rest => .ok (unaryTest run operator operand, rest)
      | [] => .error ("missing argument after " ++ quoteText operator)
  | [] => .error "missing argument"

/-- Whether a word looks like an operator with one operand. -/
def looksUnary (word : String) : Bool :=
  word.length = 2 && word.startsWith "-"

mutual

/-- Conditions of which one has to hold. -/
def anyOf (run : Run) : Nat → List String → Result
  | 0, _ => .error "too many arguments"
  | fuel + 1, words => do
    let (first, rest) ← allOf run fuel words
    match rest with
    | "-o" :: rest =>
      let (second, rest) ← anyOf run fuel rest
      return (first || second, rest)
    | rest => return (first, rest)

/-- Conditions all of which have to hold. -/
def allOf (run : Run) : Nat → List String → Result
  | 0, _ => .error "too many arguments"
  | fuel + 1, words => do
    let (first, rest) ← term run fuel words
    match rest with
    | "-a" :: rest =>
      let (second, rest) ← allOf run fuel rest
      return (first && second, rest)
    | rest => return (first, rest)

/-- A condition that has no others beside it. -/
def term (run : Run) : Nat → List String → Result
  | 0, _ => .error "too many arguments"
  | fuel + 1, words =>
    match words with
    | [] => .error "missing argument"
    | "!" :: rest => (term run fuel rest).map fun (b, rest) => (!b, rest)
    | "(" :: rest => do
      let inner := (rest.take 1 ++ (rest.drop 1).takeWhile (· != ")")).length
      let count := if 4 < inner then rest.length else inner
      if rest.isEmpty then throw "missing argument after '('"
      let (b, after) ← counted run fuel count rest
      match after with
      | ")" :: after => return (b, after)
      | word :: _ => throw ("')' expected, found " ++ quoteText word)
      | [] => throw "')' expected"
    | left :: operator :: right :: rest =>
      if operators.contains operator then
        (binaryTest wording run left operator right).map fun b => (b, rest)
      else if looksUnary left then unary run words
      else .ok (left ≠ "", operator :: right :: rest)
    | word :: rest =>
      if looksUnary word then unary run words else .ok (word ≠ "", rest)

/-- The condition that a number of words are, and the words after them. -/
def counted (run : Run) : Nat → Nat → List String → Result
  | 0, _, _ => .error "too many arguments"
  | fuel + 1, count, words =>
    match count, words with
    | 0, words => .ok (false, words)
    | 1, word :: rest => .ok (word ≠ "", rest)
    | 2, "!" :: word :: rest => .ok (word = "", rest)
    | 2, words =>
      if looksUnary (words.headD "") then unary run words
      else .error ("missing argument after " ++ quoteText (words.getD 1 ""))
    | 3, left :: operator :: right :: rest =>
      if operators.contains operator then
        (binaryTest wording run left operator right).map fun b => (b, rest)
      else if left = "!" then
        (counted run fuel 2 (operator :: right :: rest)).map fun (b, rest) => (!b, rest)
      else if left = "(" && right = ")" then .ok (operator ≠ "", rest)
      else if operator = "-a" || operator = "-o" then anyOf run fuel words
      else .error (quoteText operator ++ ": binary operator expected")
    | 4, "!" :: rest => (counted run fuel 3 rest).map fun (b, rest) => (!b, rest)
    | 4, "(" :: a :: b :: ")" :: rest =>
      (counted run fuel 2 [a, b]).map fun (b, _) => (b, rest)
    | _, words => anyOf run fuel words

end

def value (run : Run) (words : List String) : Except String Bool := do
  let (b, rest) ← counted run (6 * words.length + 8) words.length words
  match rest with
  | [] => return b
  | word :: _ => throw ("extra argument " ++ quoteText word)

end ToolCondition

def testTool (label : String) : Tool := fun args run =>
  match ToolCondition.value run args with
  | .ok b => (codeOf b, run)
  | .error complaint => (2, run.complain (label ++ complaint))

/-- Tests a condition that ends in a bracket. -/
def bracketTool (label : String) : Tool := fun args run =>
  if args.getLast? = some "]" then testTool label args.dropLast run
  else (2, run.complain (label ++ "missing ']'"))

end LineShell.Machine
