/-!
# Words of scripts

A script is cut into words, operators and line ends. The parts of a word keep how they were quoted;
what stands in substitutions is kept as text until it is needed.
-/
namespace LineShell.Machine.Script

/-- What is wrong with a script. -/
inductive ScriptFault where
  | openQuote
  | openBrace
  | openSum
  | openBackquote
  | badLoopVariable
  | badFunctionName
  | badDescriptor
  /-- Something stands where it must not, or where something else must. -/
  | unexpected (found : String) (expected : Option String)
  deriving Repr, DecidableEq

def ScriptFault.message : ScriptFault → String
  | .openQuote => "Syntax error: Unterminated quoted string"
  | .openBrace => "Syntax error: Missing '\x7d'"
  | .openSum => "Syntax error: Missing '))'"
  | .openBackquote => "Syntax error: EOF in backquote substitution"
  | .badLoopVariable => "Syntax error: Bad for loop variable"
  | .badFunctionName => "Syntax error: Bad function name"
  | .badDescriptor => "Syntax error: Bad fd number"
  | .unexpected found none => "Syntax error: " ++ found ++ " unexpected"
  | .unexpected found (some expected) =>
    "Syntax error: " ++ found ++ " unexpected (expecting " ++ expected ++ ")"

inductive Part where
  | bare (text : List Char)
  | quoted (text : List Char)
  /-- The value of a parameter, as an operator and a word change it; the operator is `length` for
  the length, and `bad` where there is none that means anything. -/
  | value (quoted : Bool) (name operator : String) (operand : List Part)
  /-- What a script prints. -/
  | output (quoted : Bool) (script : List Char)
  /-- The value of an expression. -/
  | sum (quoted : Bool) (expression : List Char)
  deriving Inhabited

abbrev Word := List Part

/-- What a script is made of. -/
inductive Token where
  | word (parts : Word)
  | operator (text : String)
  /-- An operator that leads a stream elsewhere; the number of the stream may stand before it. -/
  | redirect (stream : Option Nat) (text : String)
  | newline
  /-- The end of a script, or the place where it cannot be cut. -/
  | stop (fault : Option ScriptFault)
  deriving Inhabited

/-- A token, and the number of its line. -/
structure Placed where
  token : Token
  line : Nat
  deriving Inhabited

/-- The characters that end a bare word. -/
def isMeta (c : Char) : Bool :=
  [' ', '\t', '\n', ';', '&', '|', '<', '>', '(', ')'].contains c

def isNameChar (c : Char) : Bool :=
  c.isAlphanum || c == '_'

/-- The text up to the parenthesis that closes the one before it, and what follows; `depth` counts
open parentheses. -/
def splitClose : Nat → Nat → List Char → Option (List Char × List Char)
  | 0, _, _ => none
  | _, _, [] => none
  | fuel + 1, depth, c :: cs =>
    let keep (taken : List Char) (r : Option (List Char × List Char)) :
        Option (List Char × List Char) := r.map fun (inner, rest) => (taken ++ inner, rest)
    match c with
    | ')' => if depth = 0 then some ([], cs) else keep [c] (splitClose fuel (depth - 1) cs)
    | '(' => keep [c] (splitClose fuel (depth + 1) cs)
    | '\\' => keep (c :: cs.take 1) (splitClose fuel depth (cs.drop 1))
    | '\'' =>
      let quoted := cs.takeWhile (· != '\'')
      keep (c :: quoted ++ ['\'']) (splitClose fuel depth (cs.drop (quoted.length + 1)))
    | '"' =>
      let quoted := cs.takeWhile (· != '"')
      keep (c :: quoted ++ ['"']) (splitClose fuel depth (cs.drop (quoted.length + 1)))
    | c => keep [c] (splitClose fuel depth cs)

/-- The text between backquotes, without the backslashes that protect its characters. -/
def splitBackquote : List Char → Option (List Char × List Char)
  | [] => none
  | '\x60' :: cs => some ([], cs)
  | '\\' :: c :: cs =>
    (splitBackquote cs).map fun (inner, rest) =>
      (if ['\x60', '\\', '$'].contains c then c :: inner else '\\' :: c :: inner, rest)
  | c :: cs => (splitBackquote cs).map fun (inner, rest) => (c :: inner, rest)

/-- The name of a parameter at the front of a text. -/
def splitParameter (s : List Char) : String × List Char :=
  match s with
  | c :: cs =>
    if c.isAlpha || c = '_' then
      (String.ofList (s.takeWhile isNameChar), s.dropWhile isNameChar)
    else if c.isDigit || ['@', '*', '#', '?', '-', '$', '!'].contains c then (c.toString, cs)
    else ("", s)
  | [] => ("", [])

/-- The name of a parameter between braces, which may have several digits. -/
def splitBraced (s : List Char) : String × List Char :=
  if s.head?.any Char.isDigit then
    (String.ofList (s.takeWhile Char.isDigit), s.dropWhile Char.isDigit)
  else splitParameter s

/-- The operator after the name of a parameter between braces. -/
def splitOperator (s : List Char) : String × List Char :=
  match s with
  | ':' :: c :: cs => if ['-', '=', '+', '?'].contains c then (":" ++ c.toString, cs) else ("", s)
  | '#' :: '#' :: cs => ("##", cs)
  | '%' :: '%' :: cs => ("%%", cs)
  | c :: cs =>
    if ['-', '=', '+', '?', '#', '%'].contains c then (c.toString, cs) else ("", s)
  | [] => ("", [])

/-- Where a piece of a word stands. -/
inductive Context where
  /-- Outside quotes. -/
  | outside
  /-- Between double quotes. -/
  | double
  /-- In the word of a parameter between braces, which may stand between double quotes. -/
  | brace (quoted : Bool)
  /-- In a text that is all quoted. -/
  | document
  deriving DecidableEq

def Context.isQuoted : Context → Bool
  | .outside => false
  | .double | .document => true
  | .brace quoted => quoted

/-- Parts of a word and what follows them, or what is wrong. -/
abbrev Scanned := Except ScriptFault (List Part × List Char)

def Scanned.cons (part : Part) (scanned : Scanned) : Scanned :=
  scanned.map fun (parts, rest) => (part :: parts, rest)

/-- The fault of a substitution that is not closed. -/
def openSubstitution : ScriptFault :=
  .unexpected "end of file" (some "\")\"")

mutual

/-- The parts of a word after a dollar sign in a context, up to what ends the word, which stays. -/
def scanDollar : Nat → Context → List Char → Scanned
  | 0, _, _ => .error .openQuote
  | fuel + 1, context, cs =>
    match cs with
    | '(' :: rest =>
      let output (rest : List Char) : Scanned :=
        match splitClose (rest.length + 1) 0 rest with
        | some (inner, rest) =>
          (scanParts fuel context rest).cons (.output context.isQuoted inner)
        | none => .error openSubstitution
      match rest with
      | '(' :: inner =>
        match splitClose (inner.length + 1) 0 inner with
        | some (sum, ')' :: rest) =>
          (scanParts fuel context rest).cons (.sum context.isQuoted sum)
        | some _ => output rest
        | none => .error .openSum
      | _ => output rest
    | '\x7b' :: '#' :: '\x7d' :: rest =>
      (scanParts fuel context rest).cons (.value context.isQuoted "#" "" [])
    | '\x7b' :: '#' :: rest =>
      match splitParameter rest with
      | (name, '\x7d' :: rest) =>
        (scanParts fuel context rest).cons
          (.value context.isQuoted name (if name = "" then "bad" else "length") [])
      | (_, after) =>
        match scanParts fuel (.brace context.isQuoted) after with
        | .ok (_, '\x7d' :: rest) =>
          (scanParts fuel context rest).cons (.value context.isQuoted "" "bad" [])
        | .ok _ => .error .openBrace
        | .error e => .error e
    | '\x7b' :: rest =>
      let (name, after) := splitBraced rest
      let (operator, after) := splitOperator after
      match scanParts fuel (.brace context.isQuoted) after with
      | .ok (operand, '\x7d' :: rest) =>
        let isBad := name = "" || (operator = "" && !operand.isEmpty)
        (scanParts fuel context rest).cons
          (.value context.isQuoted name (if isBad then "bad" else operator) operand)
      | .ok _ => .error .openBrace
      | .error e => .error e
    | rest =>
      let (name, after) := splitParameter rest
      if name = "" then
        (scanParts fuel context rest).cons
          (if context.isQuoted then .quoted ['$'] else .bare ['$'])
      else (scanParts fuel context after).cons (.value context.isQuoted name "" [])

/-- The parts of a word from a context on, up to what ends it, which stays. -/
def scanParts : Nat → Context → List Char → Scanned
  | 0, _, _ => .error .openQuote
  | _, .outside, [] | _, .document, [] => .ok ([], [])
  | _, .double, [] => .error .openQuote
  | _, .brace _, [] => .error .openBrace
  | fuel + 1, context, c :: cs =>
    let plain (c : Char) : Part := if context.isQuoted then .quoted [c] else .bare [c]
    if c = '$' then scanDollar fuel context cs
    else if c = '\x60' then
      match splitBackquote cs with
      | some (inner, rest) => (scanParts fuel context rest).cons (.output context.isQuoted inner)
      | none => .error .openBackquote
    else if c = '\\' then
      match cs with
      | '\n' :: rest => scanParts fuel context rest
      | [] => .ok ([.quoted ['\\']], [])
      | d :: rest =>
        let removed := match context with
          | .outside | .brace false => true
          | .double => ['$', '\x60', '"', '\\'].contains d
          | .document => ['$', '\x60', '\\'].contains d
          | .brace true => ['$', '\x60', '"', '\\', '\x7d'].contains d
        if removed then (scanParts fuel context rest).cons (.quoted [d])
        else (scanParts fuel context cs).cons (.quoted ['\\'])
    else if c = '\'' && (context = .outside || context = .brace false) then
      let inner := cs.takeWhile (· != '\'')
      match cs.drop inner.length with
      | _ :: rest => (scanParts fuel context rest).cons (.quoted inner)
      | [] => .error .openQuote
    else if c = '"' && context ≠ .double && context ≠ .document then
      match scanParts fuel .double cs with
      | .ok (inner, '"' :: rest) =>
        (scanParts fuel context rest).map fun (parts, rest) =>
          (.quoted [] :: inner ++ parts, rest)
      | .ok _ => .error .openQuote
      | .error e => .error e
    else
      match context with
      | .outside =>
        if isMeta c then .ok ([], c :: cs) else (scanParts fuel context cs).cons (.bare [c])
      | .double =>
        if c = '"' then .ok ([], c :: cs) else (scanParts fuel context cs).cons (.quoted [c])
      | .document => (scanParts fuel context cs).cons (.quoted [c])
      | .brace _ =>
        if c = '\x7d' then .ok ([], c :: cs) else (scanParts fuel context cs).cons (plain c)

end

/-- The parts of a whole text in a context. -/
def partsOf (context : Context) (text : List Char) : Scanned :=
  scanParts (3 * text.length + 3) context text

/-- The operators of the grammar, the longer before the shorter. -/
def operators : List String := ["&&", "||", ";;", ";", "&", "|", "(", ")"]

/-- The operators that lead streams elsewhere, the longer before the shorter. -/
def redirectOperators : List String := ["<<-", "<<", ">>", ">&", "<&", "<>", ">|", ">", "<"]

/-- The first of some texts that a text begins with. -/
def firstAmong (options : List String) (s : List Char) : Option String :=
  options.find? fun o => o.toList.isPrefixOf s

/-- The text of a word without its quotes, for words that are not expanded. -/
def literalText (parts : Word) : List Char :=
  parts.flatMap fun
    | .bare text | .quoted text => text
    | .value _ name _ _ => '$' :: name.toList
    | .output _ s | .sum _ s => s

def isUnquoted (parts : Word) : Bool :=
  parts.all fun
    | .quoted _ => false
    | _ => true

/-- The lines of a document up to its delimiter, and what follows. -/
def splitDocument (strip : Bool) (delimiter : List Char) :
    Nat → List Char → List Char × List Char
  | 0, s => ([], s)
  | _, [] => ([], [])
  | fuel + 1, s =>
    let raw := s.takeWhile (· != '\n')
    let rest := s.drop (raw.length + 1)
    let line := if strip then raw.dropWhile (· == '\t') else raw
    if line = delimiter then ([], rest)
    else
      let (more, rest) := splitDocument strip delimiter fuel rest
      (line ++ '\n' :: more, rest)

/-- The documents that are due at the end of a line, the number of their lines, and what follows. -/
def takeDocuments : List (Bool × Word) → List Char → List Word × Nat × List Char
  | [], s => ([], 0, s)
  | (strip, delimiter) :: due, s =>
    let (text, rest) := splitDocument strip (literalText delimiter) (s.length + 1) s
    let document : Word :=
      if isUnquoted delimiter then
        match partsOf .document text with
        | .ok (parts, _) => parts
        | .error _ => [.quoted text]
      else [.quoted text]
    let lines := (s.take (s.length - rest.length)).count '\n'
    let (others, count, rest) := takeDocuments due rest
    (document :: others, lines + count, rest)

/-- What a script is cut into: its tokens, the last of which is a stop, and the documents that
follow redirections. -/
structure Cut where
  tokens : List Placed
  documents : List Word

/-- Puts a token in front. -/
def Cut.cons (token : Token) (line : Nat) (cut : Cut) : Cut :=
  { cut with tokens := ⟨token, line⟩ :: cut.tokens }

/-- Whether an operator asks for a document, and then whether tabs are taken off its lines. -/
def asksDocument (op : String) : Option Bool :=
  if op = "<<" then some false else if op = "<<-" then some true else none

/-- Cuts a script from a line on. `due` are the documents that begin after the next line end, and
`expecting` says that the next word is the delimiter of one. -/
def cut : Nat → Nat → List (Bool × Word) → Option Bool → List Char → Cut
  | 0, line, _, _, _ | _, line, _, _, [] => ⟨[⟨.stop none, line⟩], []⟩
  | fuel + 1, line, due, expecting, c :: cs =>
    if c = ' ' || c = '\t' then cut fuel line due expecting cs
    else if c = '\\' && cs.head? = some '\n' then cut fuel (line + 1) due expecting cs.tail
    else if c = '#' then cut fuel line due expecting (cs.dropWhile (· != '\n'))
    else if c = '\n' then
      let (documents, lines, rest) := takeDocuments due cs
      let all := cut fuel (line + 1 + lines) [] none rest
      { all.cons .newline line with documents := documents ++ all.documents }
    else
      let s := c :: cs
      match firstAmong redirectOperators s, firstAmong operators s with
      | some op, _ =>
        (cut fuel line due (asksDocument op) (s.drop op.length)).cons (.redirect none op) line
      | none, some op => (cut fuel line due none (s.drop op.length)).cons (.operator op) line
      | none, none =>
        let digits := s.takeWhile Char.isDigit
        let after := s.drop digits.length
        match digits, firstAmong redirectOperators after with
        | _ :: _, some op =>
          (cut fuel line due (asksDocument op) (after.drop op.length)).cons
            (.redirect (String.ofList digits).toNat? op) line
        | _, _ =>
          match partsOf .outside s with
          | .error fault => ⟨[⟨.stop (some fault), line + s.count '\n'⟩], []⟩
          | .ok (parts, rest) =>
            let due := match expecting with
              | some strip => due ++ [(strip, parts)]
              | none => due
            let newlines := (s.take (s.length - rest.length)).count '\n'
            (cut fuel (line + newlines) due none rest).cons (.word parts) line

/-- What a whole script is cut into. -/
def cutScript (script : List Char) : Cut :=
  cut (2 * script.length + 2) 1 [] none script

end LineShell.Machine.Script
