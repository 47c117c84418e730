import LineShell.Machine.Tool.Match

/-!
# Commands of the stream editor

A script is a flat list of commands. Each has a guard that tells for which lines it is executed.
-/
namespace LineShell.Machine.Edit

/-- An expression that lines are matched with. -/
structure Regex where
  pattern : Pattern
  fold : Bool

/-- A line that is meant. -/
inductive Address where
  | line (n : Nat)
  | last
  /-- Every line by a step, from a first one on. -/
  | every (first step : Nat)
  /-- Lines that match; without an expression, the one that was used last counts. -/
  | pattern (regex : Option Regex)

inductive RangeEnd where
  | address (address : Address)
  /-- A number of lines after the first one. -/
  | lines (n : Nat)
  /-- The next line whose number is a multiple. -/
  | multiple (n : Nat)

/-- For which lines a command is executed. -/
structure Guard where
  first : Option Address
  last : Option RangeEnd
  /-- Whether the range begins before the first line. -/
  fromStart : Bool
  negated : Bool

inductive CaseChange where
  | lower
  | upper
  | lowerNext
  | upperNext
  | none
  deriving DecidableEq

inductive ReplacementPart where
  | text (bytes : Bytes)
  | group (n : Nat)
  | case (change : CaseChange)

structure Substitution where
  regex : Option Regex
  replacement : List ReplacementPart
  /-- The first match that is replaced, counted from one, and whether those after it are too. -/
  occurrence : Nat
  global : Bool
  print : Bool
  target : Option String

/-- When a jump is made. -/
inductive JumpCondition where
  | always
  | substituted
  | notSubstituted

inductive Action where
  /-- The beginning of a block; without a match, what follows its end is next. -/
  | block
  | blockEnd
  | label (name : String)
  | jump (condition : JumpCondition) (label : String)
  | append (text : Bytes)
  | insert (text : Bytes)
  | change (text : Bytes)
  | delete
  | deleteFirst
  | print
  | printFirst
  | printVisible (width : Option Nat)
  | printNumber
  | printName
  | next
  | appendNext
  | hold
  | holdAppend
  | get
  | getAppend
  | exchange
  | quit (code : Nat) (silent : Bool)
  | readFile (name : String)
  /-- Shows a file before the first line. -/
  | insertFile (name : String)
  | readLine (name : String)
  | writeFile (name : String)
  | writeFirst (name : String)
  | substitute (substitution : Substitution)
  | replaceBytes (table : List (UInt8 × UInt8))
  | clear
  | nothing

structure Command where
  guard : Guard
  action : Action

abbrev Script := Array Command

/-- A complaint about a text, and what was left of that when it arose. -/
abbrev Fault := String × List Char

/-- How scripts are read. -/
structure Dialect where
  extended : Bool
  /-- Whether line feeds end lines. -/
  byLineFeeds : Bool

/-- The members of a bracket expression up to its end, and what follows. `inner` is the mark of a
class that is open. -/
def bracketMembers (inner : Option Char) : List Char → Option (List Char × List Char)
  | [] | '\n' :: _ => none
  | '\\' :: 'n' :: rest =>
    (bracketMembers inner rest).map fun (text, rest) => ('\n' :: text, rest)
  | c :: d :: rest =>
    if inner = some c && d = ']' then
      (bracketMembers none rest).map fun (text, rest) => (c :: d :: text, rest)
    else if inner.isNone && c = ']' then some ([c], d :: rest)
    else if inner.isNone && c = '[' && [':', '.', '='].contains d then
      (bracketMembers (some d) rest).map fun (text, rest) => (c :: d :: text, rest)
    else (bracketMembers inner (d :: rest)).map fun (text, rest) => (c :: text, rest)
  | [c] => if inner.isNone && c = ']' then some ([c], []) else none

/-- A bracket expression after its opening bracket, and what follows. -/
def bracketText (s : List Char) : Option (List Char × List Char) :=
  let (begun, s) := match s with
    | '^' :: ']' :: s => (['^', ']'], s)
    | '^' :: s => (['^'], s)
    | ']' :: s => ([']'], s)
    | s => ([], s)
  (bracketMembers none s).map fun (text, rest) => (begun ++ text, rest)

/-- The text up to a delimiter, and what follows that. In an expression, a letter `n` after a
backslash is a line feed, and brackets protect the delimiter. -/
def delimited (inRegex : Bool) (delimiter : Char) :
    Nat → List Char → Option (List Char × List Char)
  | 0, _ => none
  | _, [] => none
  | fuel + 1, c :: rest =>
    if c = '\n' then none
    else if c = delimiter then some ([], rest)
    else if c = '\\' then
      match rest with
      | [] => none
      | d :: rest =>
        (delimited inRegex delimiter fuel rest).map fun (text, rest) =>
          if d = '\n' || d = delimiter && (inRegex || d != '&') then (d :: text, rest)
          else if d = 'n' && inRegex then ('\n' :: text, rest)
          else ('\\' :: d :: text, rest)
    else if inRegex && c = '[' then
      match bracketText rest with
      | none => none
      | some (set, rest) =>
        (delimited inRegex delimiter fuel rest).map fun (text, rest) => (c :: set ++ text, rest)
    else (delimited inRegex delimiter fuel rest).map fun (text, rest) => (c :: text, rest)

/-- What is left of a text from the end of its first line on. -/
def fromLineEnd (s : List Char) : List Char :=
  s.dropWhile (· != '\n')

def radixValue (cs : List Char) (radix : Nat) : Nat :=
  cs.foldl (fun n c =>
    n * radix + (if c.isDigit then c.toNat - '0'.toNat else c.toLower.toNat - 'a'.toNat + 10)) 0

/-- Bytes with the escapes for special characters replaced; other escapes stay. In a replacement,
marks that have come from escapes stand for themselves. -/
def plainEscapes (inReplacement : Bool) : Nat → List Char → Bytes
  | 0, _ => []
  | _, [] => []
  | fuel + 1, '\\' :: c :: rest =>
    let isHex (c : Char) : Bool := c.isDigit || ('a' ≤ c.toLower && c.toLower ≤ 'f')
    let coded (radix : Nat) (digits : List Char) : Bytes :=
      if digits.isEmpty then Raw.encode (String.ofList ['\\', c]) ++ plainEscapes inReplacement fuel rest
      else
        let byte := (radixValue digits radix).toUInt8
        (if inReplacement && (byte == 38 || byte == 92) then [92, byte] else [byte])
          ++ plainEscapes inReplacement fuel (rest.drop digits.length)
    match c with
    | 'a' => 7 :: plainEscapes inReplacement fuel rest
    | 'f' => 12 :: plainEscapes inReplacement fuel rest
    | 'r' => 13 :: plainEscapes inReplacement fuel rest
    | 't' => 9 :: plainEscapes inReplacement fuel rest
    | 'v' => 11 :: plainEscapes inReplacement fuel rest
    | 'd' => coded 10 ((rest.take 3).takeWhile Char.isDigit)
    | 'o' => coded 8 ((rest.take 3).takeWhile fun c => '0' ≤ c && c ≤ '7')
    | 'x' => coded 16 ((rest.take 2).takeWhile isHex)
    | 'c' =>
      match rest with
      | [] => [92]
      | d :: after =>
        let after := if d = '\\' then after.drop 1 else after
        Raw.encode (Char.ofNat (d.toUpper.toNat ^^^ 64)).toString ++ plainEscapes inReplacement fuel after
    | c => 92 :: Raw.encode c.toString ++ plainEscapes inReplacement fuel rest
  | fuel + 1, c :: rest => Raw.encode c.toString ++ plainEscapes inReplacement fuel rest

/-- Whether an escape for a control character is spelled by another escape. -/
def nestsEscapes : List Char → Bool
  | '\\' :: 'c' :: '\\' :: '\\' :: rest => nestsEscapes rest
  | '\\' :: 'c' :: '\\' :: _ => true
  | '\\' :: _ :: rest => nestsEscapes rest
  | _ :: rest => nestsEscapes rest
  | [] => false

/-- Complains of escapes that are nested. -/
def refuseNested (text rest : List Char) : Except Fault Unit :=
  if nestsEscapes text then .error ("recursive escaping after \\c not allowed", rest) else .ok ()

/-- The expression that a text stands for; an empty one stands for the one that was used last. -/
def regexOf (dialect : Dialect) (fold rows : Bool) (text rest : List Char) :
    Except Fault (Option Regex) := do
  if text.isEmpty then
    if fold || rows then throw ("cannot specify modifiers on empty regexp", rest)
    return none
  refuseNested text rest
  let grammar : Pattern.Grammar :=
    { extended := dialect.extended
      fold
      rows := rows && dialect.byLineFeeds
      single := !dialect.extended
      strictClasses := true }
  match Pattern.parse grammar (plainEscapes false text.length text) with
  | .ok pattern => return some ⟨pattern, fold⟩
  | .error e => throw (e.message, rest)

/-- The natural number at the beginning of a text. -/
def leadingNat (s : List Char) : Nat × List Char :=
  let digits := s.takeWhile Char.isDigit
  (((String.ofList digits).toNat?).getD 0, s.drop digits.length)

/-- A text without the blanks at its beginning. -/
def skipBlanks (s : List Char) : List Char :=
  s.dropWhile fun c => c == ' ' || c == '\t'

def readAddress (dialect : Dialect) (s : List Char) : Except Fault (Option Address × List Char) :=
  let regex (delimiter : Char) (rest : List Char) : Except Fault (Option Address × List Char) :=
    match delimited true delimiter rest.length rest with
    | none => .error ("unterminated address regex", fromLineEnd rest)
    | some (text, rest) => do
      let flags := rest.takeWhile fun c => c == 'I' || c == 'M'
      let rest := rest.drop flags.length
      let regex ← regexOf dialect (flags.contains 'I') (flags.contains 'M') text rest
      return (some (.pattern regex), rest)
  match s with
  | '$' :: rest => .ok (some .last, rest)
  | '/' :: rest => regex '/' rest
  | '\\' :: c :: rest => regex c rest
  | c :: _ =>
    if c.isDigit then
      let (n, rest) := leadingNat s
      match skipBlanks rest with
      | '~' :: after =>
        let (step, rest) := leadingNat (skipBlanks after)
        .ok (some (if step = 0 then .line n else .every n step), rest)
      | _ => .ok (some (.line n), rest)
    else .ok (none, s)
  | [] => .ok (none, s)

def readRangeEnd (dialect : Dialect) (s : List Char) : Except Fault (RangeEnd × List Char) :=
  match skipBlanks s with
  | '+' :: rest =>
    let (n, rest) := leadingNat rest
    .ok (.lines n, rest)
  | '~' :: rest =>
    let (n, rest) := leadingNat rest
    .ok (.multiple n, rest)
  | s =>
    match readAddress dialect s with
    | .ok (some address, rest) => .ok (.address address, rest)
    | .ok (none, rest) => .error ("unexpected \x60,'", rest.drop 1)
    | .error e => .error e

def readGuard (dialect : Dialect) (s : List Char) : Except Fault (Guard × List Char) := do
  let (first, rest) ← readAddress dialect s
  let (last, rest) ← match first, skipBlanks rest with
    | some _, ',' :: after => do
      let (last, rest) ← readRangeEnd dialect after
      pure (some last, rest)
    | _, rest => pure (none, rest)
  let atZero := match first with
    | some (.line 0) => true
    | _ => false
  let toPattern := match last with
    | some (.address (.pattern _)) => true
    | _ => false
  -- A file may be shown before the first line.
  let insertsFile := last.isNone && (skipBlanks rest).head? = some 'r'
  if atZero && !toPattern && !insertsFile then
    throw ("invalid usage of line address 0", (skipBlanks rest).drop 1)
  let first := if atZero && insertsFile then some (.line 1) else first
  match skipBlanks rest with
  | '!' :: after =>
    match skipBlanks after with
    | '!' :: rest => throw ("multiple \x60!'s", rest)
    | rest => return (⟨first, last, atZero, true⟩, rest)
  | rest => return (⟨first, last, atZero, false⟩, rest)

def replacementParts : Nat → Bytes → List ReplacementPart
  | 0, _ => []
  | _, [] => []
  | fuel + 1, 92 :: b :: rest =>
    let part : ReplacementPart :=
      if 48 ≤ b && b ≤ 57 then .group (b - 48).toNat
      else if b = 76 then .case .lower
      else if b = 85 then .case .upper
      else if b = 108 then .case .lowerNext
      else if b = 117 then .case .upperNext
      else if b = 69 then .case .none
      else if b = 110 then .text [10]
      else .text [b]
    part :: replacementParts fuel rest
  | fuel + 1, 38 :: rest => .group 0 :: replacementParts fuel rest
  | fuel + 1, b :: rest => .text [b] :: replacementParts fuel rest

/-- The name of a file, which takes the rest of the line. -/
def readName (s : List Char) : Except Fault (String × List Char) :=
  let s := skipBlanks s
  let name := s.takeWhile (· != '\n')
  if name.isEmpty then .error ("missing filename in r/R/w/W commands", s.drop 1)
  else .ok (String.ofList name, s.drop name.length)

structure SubstitutionFlags where
  global : Bool := false
  print : Bool := false
  fold : Bool := false
  rows : Bool := false
  occurrence : Option Nat := none
  target : Option String := none

def readFlags : Nat → SubstitutionFlags → List Char → Except Fault (SubstitutionFlags × List Char)
  | 0, flags, s => .ok (flags, s)
  | fuel + 1, flags, s =>
    match s with
    | 'g' :: rest =>
      if flags.global then .error ("multiple \x60g' options to \x60s' command", rest)
      else readFlags fuel { flags with global := true } rest
    | 'p' :: rest =>
      if flags.print then .error ("multiple \x60p' options to \x60s' command", rest)
      else readFlags fuel { flags with print := true } rest
    | 'i' :: rest | 'I' :: rest => readFlags fuel { flags with fold := true } rest
    | 'm' :: rest | 'M' :: rest => readFlags fuel { flags with rows := true } rest
    | ' ' :: rest | '\t' :: rest => readFlags fuel flags rest
    | 'w' :: rest => do
      let (name, rest) ← readName rest
      return ({ flags with target := some name }, rest)
    | c :: rest =>
      if c.isDigit then
        let (n, rest) := leadingNat s
        if n = 0 then .error ("number option to \x60s' command may not be zero", rest)
        else if flags.occurrence.isSome then
          .error ("multiple number options to \x60s' command", rest)
        else readFlags fuel { flags with occurrence := some n } rest
      else if ['\r', ';', '\n', '}', '#'].contains c then .ok (flags, s)
      else .error ("unknown option to \x60s'", rest)
    | [] => .ok (flags, [])

def highestGroup (parts : List ReplacementPart) : Nat :=
  parts.foldl (fun n part => match part with | .group m => max n m | _ => n) 0

def readSubstitution (dialect : Dialect) (s : List Char) : Except Fault (Action × List Char) :=
  let unterminated : Except Fault (Action × List Char) :=
    .error ("unterminated \x60s' command", fromLineEnd s)
  match s with
  | [] => unterminated
  | delimiter :: s =>
    match delimited true delimiter s.length s with
    | none => unterminated
    | some (pattern, s) =>
      match delimited false delimiter s.length s with
      | none => unterminated
      | some (replacement, s) => do
        let (flags, rest) ← readFlags (s.length + 1) {} s
        -- Complaints come after the mark that ends the command.
        let after := match rest with
          | ';' :: after | '\n' :: after => after
          | rest => rest
        refuseNested replacement after
        let regex ← regexOf dialect flags.fold flags.rows pattern after
        let bytes := plainEscapes true replacement.length replacement
        let parts := replacementParts bytes.length bytes
        let count := highestGroup parts
        if regex.any fun r => r.pattern.groupCount < count then
          throw ("invalid reference \\" ++ toString count ++ " on \x60s' command's RHS", after)
        return (.substitute ⟨regex, parts, flags.occurrence.getD 1, flags.global, flags.print,
          flags.target⟩, rest)

/-- Bytes without the backslashes that protect others; an `n` after one is a line feed. -/
def unprotected : Bytes → Bytes
  | [] => []
  | 92 :: 110 :: rest => 10 :: unprotected rest
  | 92 :: b :: rest => b :: unprotected rest
  | b :: rest => b :: unprotected rest

/-- The bytes that a text with escapes stands for. -/
def spelled (text : List Char) : Bytes :=
  unprotected (plainEscapes false text.length text)

/-- A table of bytes that replace others, after its letter. The last one that is given for a byte
counts. -/
def readTable (s : List Char) : Except Fault (Action × List Char) :=
  match s with
  | [] => .error ("unterminated \x60y' command", [])
  | delimiter :: s =>
    match delimited false delimiter s.length s with
    | none => .error ("unterminated \x60y' command", fromLineEnd s)
    | some (first, s) =>
      match delimited false delimiter s.length s with
      | none => .error ("unterminated \x60y' command", fromLineEnd s)
      | some (second, rest) => do
        refuseNested (first ++ second) rest
        let (a, b) := (spelled first, spelled second)
        if a.length != b.length then
          throw ("strings for \x60y' command are different lengths", rest)
        return (.replaceBytes (a.zip b).reverse, rest)

/-- The text of a command that takes lines of text, up to a line feed that no backslash protects. -/
def textLines : List Char → List Char × List Char
  | [] | ['\\'] => ([], [])
  | '\\' :: '\n' :: rest =>
    let (text, rest) := textLines rest
    ('\n' :: text, rest)
  | '\\' :: c :: rest =>
    let (text, rest) := textLines rest
    ('\\' :: c :: text, rest)
  | '\n' :: rest => ([], rest)
  | c :: rest =>
    let (text, rest) := textLines rest
    (c :: text, rest)

def readText (s : List Char) : Except Fault (Bytes × List Char) :=
  let s := skipBlanks s
  match s with
  | [] => .error ("expected \\ after \x60a', \x60c' or \x60i'", s)
  | '\\' :: rest =>
    match rest with
    | '\n' :: after =>
      let (text, rest) := textLines after
      .ok (spelled text ++ [10], rest)
    | [] => .ok ([], [])
    | rest =>
      let (text, rest) := textLines rest
      .ok (spelled text ++ [10], rest)
  | s =>
    let (text, rest) := textLines s
    .ok (spelled text ++ [10], rest)

def readLabel (s : List Char) : String × List Char :=
  let s := skipBlanks s
  let name := s.takeWhile fun c => !c.isWhitespace && !([';', '}', '#'].contains c)
  (String.ofList name, s.drop name.length)

/-- The number that a command may have. -/
def readCount (s : List Char) : Option Nat × List Char :=
  let s := skipBlanks s
  let (n, rest) := leadingNat s
  (if rest.length < s.length then some n else none, rest)

/-- Whether a version is one after that whose commands are known. -/
def isNewer (version : String) : Bool :=
  match version.splitOn "." with
  | [""] => false
  | major :: minor :: _ =>
    match major.toNat?, minor.toNat? with
    | some major, some minor => 4 < major || major = 4 && 9 < minor
    | _, _ => true
  | [major] => major.toNat?.all (4 < ·)
  | [] => false

/-- What a command does, with the text after it. -/
def readAction (dialect : Dialect) (guard : Guard) (s : List Char) :
    Except Fault (Action × List Char) := do
  match s with
  | [] => throw ("missing command", s)
  | c :: rest =>
    match c with
    | '#' => throw ("comments don't accept any addresses", rest)
    | '{' => return (.block, rest)
    | '}' =>
      if guard.first.isSome then throw ("\x7d doesn't want any addresses", rest)
      return (.blockEnd, rest)
    | ':' =>
      if guard.first.isSome then throw (": doesn't want any addresses", rest)
      let (name, rest) := readLabel rest
      if name = "" then throw ("\":\" lacks a label", rest)
      return (.label name, rest)
    | 'v' =>
      let (version, rest) := readLabel rest
      if isNewer version then throw ("expected newer version of sed", rest)
      return (.nothing, rest)
    | 'b' =>
      let (label, rest) := readLabel rest
      return (.jump .always label, rest)
    | 't' =>
      let (label, rest) := readLabel rest
      return (.jump .substituted label, rest)
    | 'T' =>
      let (label, rest) := readLabel rest
      return (.jump .notSubstituted label, rest)
    | 'a' =>
      let (text, rest) ← readText rest
      return (.append text, '\n' :: rest)
    | 'i' =>
      let (text, rest) ← readText rest
      return (.insert text, '\n' :: rest)
    | 'c' =>
      let (text, rest) ← readText rest
      return (.change text, '\n' :: rest)
    | 's' => readSubstitution dialect rest
    | 'y' => readTable rest
    | 'r' =>
      let (name, rest) ← readName rest
      return (if guard.fromStart && guard.last.isNone then .insertFile name else .readFile name, rest)
    | 'R' =>
      let (name, rest) ← readName rest
      return (.readLine name, rest)
    | 'w' =>
      let (name, rest) ← readName rest
      return (.writeFile name, rest)
    | 'W' =>
      let (name, rest) ← readName rest
      return (.writeFirst name, rest)
    | 'q' | 'Q' =>
      if guard.last.isSome then throw ("command only uses one address", rest)
      let (code, rest) := readCount rest
      return (.quit (code.getD 0) (c = 'Q'), rest)
    | 'l' =>
      let (width, rest) := readCount rest
      return (.printVisible width, rest)
    | _ =>
      let simple : List (Char × Action) := [('=', .printNumber), ('d', .delete),
        ('D', .deleteFirst), ('F', .printName), ('g', .get), ('G', .getAppend), ('h', .hold),
        ('H', .holdAppend), ('n', .next), ('N', .appendNext), ('p', .print), ('P', .printFirst),
        ('x', .exchange), ('z', .clear)]
      match simple.lookup c with
      | some action => return (action, rest)
      | none => throw ("unknown command: \x60" ++ c.toString ++ "'", rest)

/-- What follows a command, after the mark that ends it. -/
def commandEnd (action : Action) (s : List Char) : Except Fault (List Char) :=
  match action with
  | .block | .label _ | .jump .. | .nothing => .ok s
  | _ =>
    match skipBlanks s with
    | [] => .ok []
    | '\n' :: rest | ';' :: rest => .ok rest
    | '}' :: rest => .ok ('}' :: rest)
    | '#' :: rest => .ok ('#' :: rest)
    | _ :: rest => .error ("extra characters after command", rest)

/-- Reads the commands of a text, with the marks of the blocks that are open before it and after it.
`mark` tells the mark of a block from the text after its beginning. -/
def readCommands (dialect : Dialect) (mark : List Char → String) :
    Nat → List String → List Char → Except Fault (List Command × List String)
  | 0, opened, _ => .ok ([], opened)
  | fuel + 1, opened, s => do
    match s.dropWhile fun c => c.isWhitespace || c == ';' with
    | [] => return ([], opened)
    | '#' :: rest => readCommands dialect mark fuel opened (rest.dropWhile (· != '\n'))
    | s =>
      let (guard, s) ← readGuard dialect s
      if s.head? = some '}' && opened.isEmpty then throw ("unexpected \x60\x7d'", s.drop 1)
      let (action, s) ← readAction dialect guard s
      let opened := match action with
        | .block => mark s :: opened
        | .blockEnd => opened.tail
        | _ => opened
      let rest ← commandEnd action s
      let (commands, opened) ← readCommands dialect mark fuel opened rest
      return (⟨guard, action⟩ :: commands, opened)

/-- A piece of a script: an option's value, or what is in a file. -/
inductive Piece where
  | expression (text : String)
  | file (name text : String)

def Piece.text : Piece → String
  | .expression text | .file _ text => text

/-- Whether a piece is an option's value. -/
def Piece.isExpression : Piece → Bool
  | .expression _ => true
  | .file .. => false

/-- How a complaint tells of the place where a number of bytes of pieces, which make up lines of one
text, have been read. `count` expressions came before them. In expressions, the number is told only if
it is asked for. -/
def placeText (exact : Bool) : Nat → Nat → List Piece → String
  | _, _, [] => ""
  | count, read, piece :: rest =>
    let length := piece.text.utf8ByteSize
    let here := read ≤ length || rest.isEmpty
    match piece with
    | .expression _ =>
      if here then
        "-e expression #" ++ toString (count + 1) ++ ", char " ++ toString (if exact then read else 0)
      else placeText exact (count + 1) (read - length - 1) rest
    | .file name text =>
      if here then
        "file " ++ name ++ " line " ++ toString (((Raw.encode text).take read).count 10 + 1)
      else placeText exact count (read - length - 1) rest

/-- How a complaint tells of the end of pieces. -/
def endText (pieces : List Piece) : String :=
  match pieces.getLast? with
  | some (.file name text) => "file " ++ name ++ " line " ++ toString (text.toList.count '\n' + 1)
  | _ => "-e expression #" ++ toString (pieces.countP Piece.isExpression) ++ ", char 0"

/-- Pieces in groups. The text of a command may go on in the next piece: then a backslash ends the
piece, and both are of one group. -/
def groupPieces : List Piece → List (List Piece)
  | [] => []
  | piece :: rest =>
    match groupPieces rest with
    | group :: groups =>
      if (piece.text.toList.reverse.takeWhile (· == '\\')).length % 2 = 1 then
        (piece :: group) :: groups
      else [piece] :: group :: groups
    | [] => [[piece]]

/-- The place after the end of the block that begins before some commands. -/
def afterBlock : Nat → Nat → List Command → Nat
  | place, _, [] => place
  | place, depth, command :: rest =>
    match command.action with
    | .block => afterBlock (place + 1) (depth + 1) rest
    | .blockEnd => if depth = 0 then place + 1 else afterBlock (place + 1) (depth - 1) rest
    | _ => afterBlock (place + 1) depth rest

/-- The place of a label in a script; an empty one is its end. -/
def Script.placeOf? (script : Script) (label : String) : Option Nat :=
  if label = "" then some script.size
  else
    script.findIdx? fun command =>
      match command.action with
      | .label name => name == label
      | _ => false

structure ReadPieces where
  commands : List Command
  /-- The number of expressions. -/
  count : Nat
  /-- The places where the open blocks begin, the last one first. -/
  opened : List String

def ReadPieces.add (dialect : Dialect) (before : ReadPieces) (group : List Piece) :
    Except (Nat × String) ReadPieces :=
  let s := "\n".intercalate (group.map Piece.text)
  let place (exact : Bool) (rest : List Char) : String :=
    placeText exact before.count (s.utf8ByteSize - (String.ofList rest).utf8ByteSize) group
  match readCommands dialect (place false) (s.length + 1) before.opened s.toList with
  | .error (complaint, rest) =>
    if complaint = PatternError.bareClass.message then .error (4, "sed: " ++ complaint)
    else .error (1, "sed: " ++ place true rest ++ ": " ++ complaint)
  | .ok (commands, opened) =>
    .ok ⟨before.commands ++ commands, before.count + group.countP Piece.isExpression, opened⟩

/-- The script that pieces make up; or an exit code, and a complaint that tells where it arose. -/
def Script.ofPieces (dialect : Dialect) (pieces : List Piece) : Except (Nat × String) Script := do
  let start : ReadPieces := ⟨[], 0, []⟩
  let all ← (groupPieces pieces).foldlM (ReadPieces.add dialect) start
  if let place :: _ := all.opened then throw (1, "sed: " ++ place ++ ": unmatched \x60\x7b'")
  let script : Script := all.commands.toArray
  let missing := all.commands.findSome? fun command =>
    match command.action with
    | .jump _ label => if (script.placeOf? label).isNone then some label else none
    | _ => none
  match missing with
  | some label => throw (4, "sed: can't find label for jump to \x60" ++ label ++ "'")
  | none => return script

end LineShell.Machine.Edit
