import LineShell.Machine.Script.Word

/-!
# The grammar of scripts

Commands, joined by pipes, by conditions and in sequences, and the compound commands. A script is
read a line at a time, so that what stands before a fault is carried out.
-/
namespace LineShell.Machine.Script

/-- A stream that is led elsewhere. -/
structure Redirect where
  stream : Nat
  operator : String
  target : Word
  deriving Inhabited

inductive Command where
  | simple (line : Nat) (words : List Word)
  /-- A command whose streams are led elsewhere. -/
  | redirected (line : Nat) (inner : Command) (redirects : List Redirect)
  | pipeline (negated : Bool) (stages : List Command)
  | both (first second : Command)
  | either (first second : Command)
  | sequence (commands : List Command)
  | background (inner : Command)
  | condition (test yes no : Command)
  | loop (stopWhen : Bool) (test body : Command)
  | each (line : Nat) (name : String) (words : Option (List Word)) (body : Command)
  | select (line : Nat) (word : Word) (arms : List (List Word × Command))
  | subshell (line : Nat) (inner : Command)
  | function (line : Nat) (name : String) (body : Command)
  deriving Inhabited

/-- What a parser has left: tokens, and documents that no redirection has taken yet. -/
structure Rest where
  tokens : List Placed
  documents : List Word

/-- A parser. A fault comes with the line where it was found. -/
abbrev Parser := StateT Rest (Except (Nat × ScriptFault))

/-- The next token, which stays. -/
def peek : Parser Token := do
  return match (← get).tokens with
    | next :: _ => next.token
    | [] => .stop none

def currentLine : Parser Nat := do
  return ((← get).tokens.head?.map (·.line)).getD 1

def advance : Parser Unit :=
  modify fun rest => { rest with tokens := rest.tokens.tail }

/-- The word that a token is, if it may be a reserved one. -/
def reserved? (token : Token) : Option String :=
  match token with
  | .word parts =>
    let text := parts.mapM fun
      | .bare text => some text
      | _ => none
    text.map fun t => String.ofList t.flatten
  | _ => none

/-- The words that have a meaning of their own where a command may begin. -/
def reservedWords : List String := [
  "!", "case", "do", "done", "elif", "else", "esac", "fi", "for", "if", "in", "then", "until",
  "while", "\x7b", "\x7d"]

def inQuotes (text : String) : String :=
  "\"" ++ text ++ "\""

/-- How a token is called; `asCommand` tells whether a command may begin there. -/
def Token.called (asCommand : Bool) (token : Token) : String :=
  match token with
  | .word _ =>
    match reserved? token with
    | some text => if asCommand && reservedWords.contains text then inQuotes text else "word"
    | none => "word"
  | .operator text => inQuotes text
  | .redirect .. => "redirection"
  | .newline => "newline"
  | .stop _ => "end of file"

/-- Fails with a fault at the next token, or with what is wrong with that token itself. -/
def fail (fault : ScriptFault) : Parser α := do
  match ← peek with
  | .stop (some found) => throw (← currentLine, found)
  | .newline => throw ((← currentLine) + 1, fault)
  | _ => throw (← currentLine, fault)

/-- Fails because of the next token. -/
def unexpected (asCommand : Bool) (expected : Option String) : Parser α := do
  fail (.unexpected ((← peek).called asCommand) expected)

/-- Takes a reserved word, or fails. -/
def expectWord (word : String) : Parser Unit := do
  if reserved? (← peek) = some word then advance else unexpected true (some (inQuotes word))

/-- Takes a closing parenthesis, or fails. -/
def expectClose : Parser Unit := do
  match ← peek with
  | .operator ")" => advance
  | _ => unexpected true (some (inQuotes ")"))

/-- Takes line ends; `limit` bounds their number. -/
def skipNewlines : Nat → Parser Unit
  | 0 => return ()
  | limit + 1 => do
    match ← peek with
    | .newline => advance; skipNewlines limit
    | _ => return ()

/-- Takes all line ends that come next. -/
def newlines : Parser Unit := do
  skipNewlines (← get).tokens.length

/-- The words that end a list of commands where they stand in place of a command. -/
def closers : List String := ["then", "else", "elif", "fi", "do", "done", "esac", "\x7d"]

/-- Whether a list of commands inside another command ends here. -/
def atListEnd : Parser Bool := do
  match ← peek with
  | .stop _ => return true
  | .operator op => return op = ")" || op = ";;"
  | token => return (reserved? token).any closers.contains

/-- The stream that an operator leads elsewhere unless a number says otherwise. -/
def defaultStream (op : String) : Nat :=
  if op.startsWith "<" then 0 else 1

def redirect? : Parser (Option Redirect) := do
  match ← peek with
  | .redirect stream op =>
    advance
    match ← peek with
    | .word target =>
      advance
      let stream := stream.getD (defaultStream op)
      if (asksDocument op).isSome then
        match (← get).documents with
        | document :: documents =>
          modify fun rest => { rest with documents }
          return some ⟨stream, "<<", document⟩
        | [] => return some ⟨stream, "<<", []⟩
      else return some ⟨stream, op, target⟩
    | _ => unexpected false none
  | _ => return none

/-- The redirections that come next; `limit` bounds their number. -/
def redirectsWithin : Nat → Parser (List Redirect)
  | 0 => return []
  | limit + 1 => do
    match ← redirect? with
    | some r => return r :: (← redirectsWithin limit)
    | none => return []

/-- The words and redirections of a simple command; `limit` bounds their number. -/
def simpleParts : Nat → Parser (List Word × List Redirect)
  | 0 => return ([], [])
  | limit + 1 => do
    match ← redirect? with
    | some r =>
      let (words, redirects) ← simpleParts limit
      return (words, r :: redirects)
    | none =>
      match ← peek with
      | .word parts =>
        advance
        let (words, redirects) ← simpleParts limit
        return (parts :: words, redirects)
      | _ => return ([], [])

/-- A command with redirections around it, if there are any. -/
def withRedirects (line : Nat) (inner : Command) (redirects : List Redirect) : Command :=
  if redirects.isEmpty then inner else .redirected line inner redirects

/-- Words up to the end of a line or a semicolon; `limit` bounds their number. -/
def wordsWithin : Nat → Parser (List Word)
  | 0 => return []
  | limit + 1 => do
    match ← peek with
    | .word parts => advance; return parts :: (← wordsWithin limit)
    | _ => return []

/-- The patterns of an arm, with bars between them; `limit` bounds their number. -/
def patternsWithin : Nat → Parser (List Word)
  | 0 => unexpected false none
  | limit + 1 => do
    match ← peek with
    | .word parts =>
      advance
      match ← peek with
      | .operator "|" => advance; return parts :: (← patternsWithin limit)
      | .operator ")" => advance; return [parts]
      | _ => unexpected false (some (inQuotes ")"))
    | _ => unexpected false (some (inQuotes ")"))

/-- The only command of a sequence that has no more. -/
def Command.sole : Command → Command
  | .sequence [only] => only
  | command => command

/-- A group as it stands when its streams are led elsewhere. If it holds a subshell and nothing else,
the subshell takes the place of the group, and where its own streams were led to is forgotten. -/
def Command.regrouped (group : Command) : Command :=
  match group.sole.sole with
  | .subshell line inner | .redirected _ (.subshell line inner) _ => .subshell line inner
  | _ => group

def isName (text : String) : Bool :=
  match text.toList with
  | [] => false
  | c :: cs => (c.isAlpha || c = '_') && cs.all isNameChar

mutual

/-- The commands inside another command, up to what ends them. -/
def parseList : Nat → Parser Command
  | 0 => unexpected true none
  | fuel + 1 => do
    newlines
    return .sequence (← parseItems false fuel)

/-- The items of a list, of one line if `single` holds. -/
def parseItems (single : Bool) : Nat → Parser (List Command)
  | 0 => unexpected true none
  | fuel + 1 => do
    if !single then newlines
    let ended ← match ← peek with
      | .newline | .stop none => pure true
      | _ => pure false
    if ended then return []
    if !single && (← atListEnd) then return []
    let item ← parseAndOr fuel
    match ← peek with
    | .operator ";" => advance; return item :: (← parseItems single fuel)
    | .operator "&" => advance; return .background item :: (← parseItems single fuel)
    | .newline => return item :: (← if single then pure [] else parseItems single fuel)
    | .stop none => return [item]
    | _ => if !single && (← atListEnd) then return [item] else unexpected true none

/-- Pipelines with conditions between them. -/
def parseAndOr : Nat → Parser Command
  | 0 => unexpected true none
  | fuel + 1 => do
    let first ← parsePipeline fuel
    parseAndOrRest fuel first

/-- The rest of pipelines with conditions between them. -/
def parseAndOrRest : Nat → Command → Parser Command
  | 0, _ => unexpected true none
  | fuel + 1, first => do
    match ← peek with
    | .operator "&&" =>
      advance
      newlines
      let second ← parsePipeline fuel
      parseAndOrRest fuel (.both first second)
    | .operator "||" =>
      advance
      newlines
      let second ← parsePipeline fuel
      parseAndOrRest fuel (.either first second)
    | _ => return first

def parsePipeline : Nat → Parser Command
  | 0 => unexpected true none
  | fuel + 1 => do
    if reserved? (← peek) = some "!" then
      advance
      return .pipeline true (← parseStages fuel)
    else
      match ← parseStages fuel with
      | [single] => return single
      | stages => return .pipeline false stages

def parseStages : Nat → Parser (List Command)
  | 0 => unexpected true none
  | fuel + 1 => do
    let first ← parseCommand fuel
    match ← peek with
    | .operator "|" =>
      advance
      newlines
      return first :: (← parseStages fuel)
    | _ => return [first]

def parseCommand : Nat → Parser Command
  | 0 => unexpected true none
  | fuel + 1 => do
    let line ← currentLine
    let count := (← get).tokens.length
    let token ← peek
    match token, reserved? token with
    | .operator "(", _ =>
      advance
      let inner ← parseList fuel
      expectClose
      return withRedirects line (.subshell line inner) (← redirectsWithin count)
    | _, some "\x7b" =>
      advance
      let inner ← parseList fuel
      expectWord "\x7d"
      let redirects ← redirectsWithin count
      return withRedirects line (if redirects.isEmpty then inner else inner.regrouped) redirects
    | _, some "if" =>
      advance
      let inner ← parseIf fuel
      return withRedirects line inner (← redirectsWithin count)
    | _, some "while" | _, some "until" =>
      advance
      let test ← parseList fuel
      expectWord "do"
      let body ← parseList fuel
      expectWord "done"
      let inner := Command.loop (reserved? token = some "until") test body
      return withRedirects line inner (← redirectsWithin count)
    | _, some "for" =>
      advance
      let name ← match reserved? (← peek) with
        | some name => if isName name then advance; pure name else fail .badLoopVariable
        | none => fail .badLoopVariable
      newlines
      let words ← match reserved? (← peek) with
        | some "in" =>
          advance
          let words ← wordsWithin count
          match ← peek with
          | .operator ";" | .newline => pure ()
          | _ => unexpected false none
          pure (some words)
        | _ => pure none
      match ← peek with
      | .operator ";" => advance
      | _ => pure ()
      newlines
      expectWord "do"
      let body ← parseList fuel
      expectWord "done"
      return withRedirects line (.each line name words body) (← redirectsWithin count)
    | _, some "case" =>
      advance
      let word ← match ← peek with
        | .word parts => advance; pure parts
        | _ => unexpected false (some "word")
      newlines
      expectWord "in"
      let arms ← parseArms fuel
      return withRedirects line (.select line word arms) (← redirectsWithin count)
    | .word _, word =>
      if word.any closers.contains then unexpected true none
      else
        match word, (← get).tokens.tail with
        | some name, ⟨.operator "(", _⟩ :: _ =>
          advance
          advance
          match ← peek with
          | .operator ")" => advance
          | _ => unexpected false (some (inQuotes ")"))
          if !isName name then fail .badFunctionName
          newlines
          return .function line name (← parseCommand fuel)
        | _, _ => parseSimple line
    | .redirect .., _ => parseSimple line
    | _, _ => unexpected true none

def parseSimple (line : Nat) : Parser Command := do
  let (words, redirects) ← simpleParts (← get).tokens.length
  return withRedirects line (.simple line words) redirects

/-- The rest of a conditional command after its first word. -/
def parseIf : Nat → Parser Command
  | 0 => unexpected true none
  | fuel + 1 => do
    let test ← parseList fuel
    expectWord "then"
    let yes ← parseList fuel
    match reserved? (← peek) with
    | some "elif" =>
      advance
      return .condition test yes (← parseIf fuel)
    | some "else" =>
      advance
      let no ← parseList fuel
      expectWord "fi"
      return .condition test yes no
    | _ =>
      expectWord "fi"
      return .condition test yes (.sequence [])

/-- The arms of a selection, up to its end. -/
def parseArms : Nat → Parser (List (List Word × Command))
  | 0 => unexpected true none
  | fuel + 1 => do
    newlines
    if reserved? (← peek) = some "esac" then
      advance
      return []
    else
      match ← peek with
      | .operator "(" => advance
      | _ => pure ()
      let patterns ← patternsWithin (← get).tokens.length
      let body ← parseList fuel
      match ← peek with
      | .operator ";;" => advance; return (patterns, body) :: (← parseArms fuel)
      | token =>
        if reserved? token = some "esac" then
          advance
          return [(patterns, body)]
        else unexpected true (some (inQuotes ";;"))

end

/-- The commands of the next line, without the line end. There are none at the end. -/
def nextLine (rest : Rest) : Except (Nat × ScriptFault) (Option Command × Rest) :=
  let scan : Parser (Option Command) := do
    newlines
    match ← peek with
    | .stop none => return none
    | _ => return some (.sequence (← parseItems true (8 * rest.tokens.length + 16)))
  scan.run rest

/-- A script before its first line. -/
def beginning (script : List Char) : Rest :=
  let all := cutScript script
  ⟨all.tokens, all.documents⟩

end LineShell.Machine.Script
