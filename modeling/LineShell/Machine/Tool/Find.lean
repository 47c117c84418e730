import LineShell.Machine.Glob
import LineShell.Machine.Tool.Directory
import LineShell.Machine.Tool.Wrap

/-!
# Finding files

Directories are walked through, and an expression is evaluated for everything that is found. Its
tests and actions are true or false, and are joined by operators.
-/
namespace LineShell.Machine

namespace Find

/-- A test of what was found. -/
inductive Test where
  | name (pattern : String) (fold : Bool)
  | path (pattern : String) (fold : Bool)
  | kind (letters : String)
  | empty
  /-- The size in units of some bytes is a number, is less, or is more. -/
  | size (order : Ordering) (count unit : Nat)
  | executable
  | always
  | never

/-- Something that is done with what was found. -/
inductive Action where
  | print (ending : String)
  | format (text : String)
  | run (words : List String)
  /-- Runs a program at the end, for all that was found. -/
  | runAll (words : List String)
  | delete
  | prune
  | quit

inductive Expr where
  | test (test : Test)
  | action (action : Action)
  | both (a b : Expr)
  | either (a b : Expr)
  | sequence (a b : Expr)
  | negated (a : Expr)

/-- Whether an expression does something that is seen. -/
def Expr.acts : Expr → Bool
  | .test _ | .action .prune => false
  | .action _ => true
  | .both a b | .either a b | .sequence a b => a.acts || b.acts
  | .negated a => a.acts

/-- Whether an expression removes files. -/
def Expr.deletes : Expr → Bool
  | .action .delete => true
  | .test _ | .action _ => false
  | .both a b | .either a b | .sequence a b => a.deletes || b.deletes
  | .negated a => a.deletes

/-- How directories are walked through. -/
structure Walk where
  least : Nat := 0
  most : Option Nat := none
  /-- Whether a directory comes after what lies below it. -/
  deepFirst : Bool := false

/-- A complaint about the words of an expression. -/
abbrev Fault := String

def sizeTest (word : String) : Option Test :=
  let (order, s) : Ordering × List Char := match word.toList with
    | '+' :: s => (.gt, s)
    | '-' :: s => (.lt, s)
    | s => (.eq, s)
  let digits := s.takeWhile Char.isDigit
  let unit : Option Nat := match s.drop digits.length with
    | [] | ['b'] => some 512
    | ['c'] => some 1
    | ['w'] => some 2
    | ['k'] => some 1024
    | ['M'] => some (1024 * 1024)
    | ['G'] => some (1024 * 1024 * 1024)
    | _ => none
  match (String.ofList digits).toNat?, unit with
  | some n, some unit => some (.size order n unit)
  | _, _ => none

/-- The words of a command up to the mark that ends it, that mark, and what follows. -/
def commandWords : List String → Option (List String × Bool × List String)
  | [] => none
  | ";" :: rest => some ([], false, rest)
  | "\x7b\x7d" :: "+" :: rest => some ([], true, rest)
  | word :: rest => (commandWords rest).map fun (words, all, rest) => (word :: words, all, rest)

/-- A test or an action, and the words after it. Options of the walk are tests that always hold. -/
def primary (walk : Walk) (word : String) (rest : List String) :
    Except Fault (Expr × Walk × List String) :=
  let missing : Except Fault (Expr × Walk × List String) :=
    .error ("find: missing argument to \x60" ++ word ++ "'")
  let test (t : Test) := (.ok (.test t, walk, rest) : Except Fault (Expr × Walk × List String))
  let action (a : Action) := (.ok (.action a, walk, rest) : Except Fault (Expr × Walk × List String))
  let valued (f : String → List String → Except Fault (Expr × Walk × List String)) :=
    match rest with
    | [] => missing
    | value :: rest => f value rest
  match word with
  | "-name" => valued fun value rest => .ok (.test (.name value false), walk, rest)
  | "-iname" => valued fun value rest => .ok (.test (.name value true), walk, rest)
  | "-path" | "-wholename" => valued fun value rest => .ok (.test (.path value false), walk, rest)
  | "-ipath" => valued fun value rest => .ok (.test (.path value true), walk, rest)
  | "-type" => valued fun value rest =>
    match value.toList.find? fun c => !"fdlbcps,".contains c with
    | none => .ok (.test (.kind value), walk, rest)
    | some _ => .error ("find: Unknown argument to -type: " ++ value)
  | "-size" => valued fun value rest =>
    match sizeTest value with
    | some t => .ok (.test t, walk, rest)
    | none => .error ("find: Invalid argument \x60" ++ value ++ "' to -size")
  | "-maxdepth" => valued fun value rest =>
    match value.toNat? with
    | some n => .ok (.test .always, { walk with most := some n }, rest)
    | none => .error ("find: Expected a positive decimal integer argument to -maxdepth, but got '"
        ++ value ++ "'")
  | "-mindepth" => valued fun value rest =>
    match value.toNat? with
    | some n => .ok (.test .always, { walk with least := n }, rest)
    | none => .error ("find: Expected a positive decimal integer argument to -mindepth, but got '"
        ++ value ++ "'")
  | "-printf" => valued fun value rest => .ok (.action (.format value), walk, rest)
  | "-depth" | "-d" => .ok (.test .always, { walk with deepFirst := true }, rest)
  | "-xdev" | "-mount" | "-noleaf" | "-daystart" | "-follow" | "-true" => test .always
  | "-false" => test .never
  | "-empty" => test .empty
  | "-executable" => test .executable
  | "-readable" | "-writable" => test .always
  | "-print" => action (.print "\n")
  | "-print0" => action (.print "\x00")
  | "-delete" => .ok (.action .delete, { walk with deepFirst := true }, rest)
  | "-prune" => action .prune
  | "-quit" => action .quit
  | "-exec" | "-execdir" | "-ok" =>
    match commandWords rest with
    | some ([], _, _) | none => missing
    | some (words, false, rest) => .ok (.action (.run words), walk, rest)
    | some (words, true, rest) => .ok (.action (.runAll words), walk, rest)
  | _ =>
    if word.startsWith "-" then .error ("find: unknown predicate \x60" ++ word ++ "'")
    else .error ("find: paths must precede expression: \x60" ++ word ++ "'")

mutual

/-- An expression with operators of any strength. -/
def expression : Nat → Walk → List String → Except Fault (Expr × Walk × List String)
  | 0, _, _ => .error "find: invalid expression"
  | fuel + 1, walk, words => do
    let (first, walk, rest) ← disjunction fuel walk words
    match rest with
    | "," :: rest =>
      let (second, walk, rest) ← expression fuel walk rest
      return (.sequence first second, walk, rest)
    | rest => return (first, walk, rest)

/-- Expressions of which one has to hold. -/
def disjunction : Nat → Walk → List String → Except Fault (Expr × Walk × List String)
  | 0, _, _ => .error "find: invalid expression"
  | fuel + 1, walk, words => do
    let (first, walk, rest) ← conjunction fuel walk words
    match rest with
    | "-o" :: rest | "-or" :: rest =>
      let (second, walk, rest) ← disjunction fuel walk rest
      return (.either first second, walk, rest)
    | rest => return (first, walk, rest)

/-- Expressions all of which have to hold. -/
def conjunction : Nat → Walk → List String → Except Fault (Expr × Walk × List String)
  | 0, _, _ => .error "find: invalid expression"
  | fuel + 1, walk, words => do
    let (first, walk, rest) ← factor fuel walk words
    match rest with
    | "-a" :: rest | "-and" :: rest =>
      let (second, walk, rest) ← conjunction fuel walk rest
      return (.both first second, walk, rest)
    | [] | ")" :: _ | "," :: _ | "-o" :: _ | "-or" :: _ => return (first, walk, rest)
    | rest =>
      let (second, walk, rest) ← conjunction fuel walk rest
      return (.both first second, walk, rest)

/-- A test or action, negated or in parentheses. -/
def factor : Nat → Walk → List String → Except Fault (Expr × Walk × List String)
  | 0, _, _ => .error "find: invalid expression"
  | _, _, [] => .error "find: invalid expression; I was expecting to find a test"
  | fuel + 1, walk, "!" :: rest | fuel + 1, walk, "-not" :: rest => do
    let (inner, walk, rest) ← factor fuel walk rest
    return (.negated inner, walk, rest)
  | fuel + 1, walk, "(" :: rest => do
    let (inner, walk, rest) ← expression fuel walk rest
    match rest with
    | ")" :: rest => return (inner, walk, rest)
    | _ =>
      throw ("find: invalid expression; I was expecting to find a ')' somewhere "
        ++ "but did not see one.")
  | _, walk, word :: rest => primary walk word rest

end

/-- Something that was found. -/
structure Entry where
  /-- Its name, as it is printed. -/
  name : String
  /-- The name that the walk began with. -/
  start : String
  node : Node
  depth : Nat

def kindLetter : Node → Char
  | .dir _ => 'd'
  | .link _ => 'l'
  | .file .. => 'f'
  | _ => 'c'

def lastPart (name : String) : String :=
  let base := baseName name ""
  if base = "" then name else base

/-- Whether a pattern matches a text; if case does not count, both are in small letters. -/
def patternMatches (pattern text : String) (fold : Bool) : Bool :=
  let lower (s : String) : String := if fold then s.toLower else s
  let rec glyphs : List Char → List Glyph
    | [] => []
    | '\\' :: c :: rest => (c, true) :: glyphs rest
    | c :: rest => (c, false) :: glyphs rest
  matches? (glyphs (lower pattern).toList) (lower text)

def Test.holds (test : Test) (entry : Entry) : Bool :=
  match test with
  | .name pattern fold => patternMatches pattern (lastPart entry.name) fold
  | .path pattern fold => patternMatches pattern entry.name fold
  | .kind letters => letters.contains (kindLetter entry.node)
  | .empty =>
    match entry.node with
    | .dir entries => entries.isEmpty
    | .file content _ => content.isEmpty
    | _ => false
  | .size order count unit =>
    compare ((sizeOf entry.node + unit - 1) / unit) count == order
  | .executable =>
    match entry.node with
    | .file _ mode => mode
    | _ => true
  | .always => true
  | .never => false

/-- The text that a format gives for an entry. -/
def formatted (entry : Entry) : List Char → String
  | [] => ""
  | '\\' :: 'n' :: rest => "\n" ++ formatted entry rest
  | '\\' :: 't' :: rest => "\t" ++ formatted entry rest
  | '\\' :: '0' :: rest => "\x00" ++ formatted entry rest
  | '\\' :: '\\' :: rest => "\\" ++ formatted entry rest
  | '%' :: c :: rest =>
    let below := String.ofList
      ((entry.name.toList.drop entry.start.length).dropWhile (· == '/'))
    let text := match c with
      | '%' => "%"
      | 'p' => entry.name
      | 'f' => lastPart entry.name
      | 'h' => dirName entry.name
      | 'P' => below
      | 'H' => entry.start
      | 'd' => toString entry.depth
      | 's' => toString (sizeOf entry.node)
      | 'y' => (kindLetter entry.node).toString
      | 'l' => match entry.node with
        | .link target => Raw.decode target
        | _ => ""
      | c => "%" ++ c.toString
    text ++ formatted entry rest
  | c :: rest => c.toString ++ formatted entry rest

/-- What a walk has come to. -/
structure State where
  run : Run
  code : Nat
  pruned : Bool
  stopped : Bool
  /-- The programs that are run at the end, with the names that were found. -/
  gathered : List (List String × List String)

/-- Does something with an entry; tells whether that counts as true. -/
def Action.perform (launch : Launch) (action : Action) (entry : Entry) (state : State) :
    Bool × State :=
  match action with
  | .print ending => (true, { state with run := state.run.put (entry.name ++ ending) })
  | .format text => (true, { state with run := state.run.put (formatted entry text.toList) })
  | .run words =>
    let words := words.map fun w => entry.name.intercalate (w.splitOn "\x7b\x7d")
    let (code, after) := launch "find" words state.run
    (code = 0, { state with run := { after with killedBy := none } })
  | .runAll words =>
    let names := (state.gathered.lookup words).getD []
    let others := state.gathered.filter (·.1 != words)
    (true, { state with gathered := others ++ [(words, names ++ [entry.name])] })
  | .delete =>
    let path := state.run.resolve entry.name
    let remove (fs : FileSystem) : FileSystem.Change Unit :=
      if entry.node.isDir then fs.removeDir path else fs.removeFile path
    match state.run.attempt remove with
    | (.ok (), after) => (true, { state with run := after })
    | (.error e, after) =>
      (false, { state with
        run := after.complain ("find: cannot delete '" ++ entry.name ++ "': " ++ plainMessage e)
        code := 1 })
  | .prune => (true, { state with pruned := true })
  | .quit => (true, { state with stopped := true })

def Expr.eval (launch : Launch) (entry : Entry) : Expr → State → Bool × State
  | .test t, state => (t.holds entry, state)
  | .action a, state => if state.stopped then (false, state) else a.perform launch entry state
  | .both a b, state =>
    match a.eval launch entry state with
    | (true, state) => b.eval launch entry state
    | failed => failed
  | .either a b, state =>
    match a.eval launch entry state with
    | (false, state) => b.eval launch entry state
    | held => held
  | .sequence a b, state => b.eval launch entry (a.eval launch entry state).2
  | .negated a, state =>
    let (holds, state) := a.eval launch entry state
    (!holds, state)

/-- Walks through what was found, and through what lies below it. -/
def visit (launch : Launch) (walk : Walk) (expr : Expr) : Nat → Entry → State → State
  | 0, _, state => state
  | fuel + 1, entry, state =>
    let here (state : State) : State :=
      if entry.depth < walk.least || state.stopped then state
      else (expr.eval launch entry { state with pruned := false }).2
    let below (state : State) : State :=
      match entry.node with
      | .dir entries =>
        if walk.most.any (· ≤ entry.depth) then state
        else
          (Node.sortEntries entries).foldl (fun state (name, node) =>
            if state.stopped then state
            else
              visit launch walk expr fuel
                ⟨Raw.below entry.name name, entry.start, node, entry.depth + 1⟩ state) state
      | _ => state
    if walk.deepFirst then here (below state)
    else
      let state := here { state with pruned := false }
      if state.pruned || state.stopped then state else below state

def beginsExpression (word : String) : Bool :=
  (word.startsWith "-" && word ≠ "-") || ["(", ")", "!", ","].contains word

end Find

/-- Finds files, and does something with them. -/
def findTool (launch : Launch) : Tool := fun args run =>
  let args := args.dropWhile ["-H", "-L", "-P"].contains
  let paths := args.takeWhile (!Find.beginsExpression ·)
  let words := args.drop paths.length
  let parsed : Except Find.Fault (Find.Expr × Find.Walk × List String) :=
    if words.isEmpty then .ok (.test .always, {}, [])
    else Find.expression (4 * words.length + 4) {} words
  match parsed with
  | .error complaint => (1, run.complain complaint)
  | .ok (_, _, extra :: _) =>
    (1, run.complain (if extra = ")" then "find: invalid expression; you have too many ')'"
      else "find: paths must precede expression: \x60" ++ extra ++ "'"))
  | .ok (expr, walk, []) =>
    let expr := if expr.acts then expr else .both expr (.action (.print "\n"))
    let paths := if paths.isEmpty then ["."] else paths
    let state := paths.foldl (fun (state : Find.State) name =>
      if state.stopped then state
      else
        match state.run.files.locate .followAtSlash (state.run.resolve name) with
        | .ok (.found _ node ..) => Find.visit launch walk expr 256 ⟨name, name, node, 0⟩ state
        | result =>
          let e : IoError := match result with
            | .error e => e
            | _ => .os .noEntry
          { state with
            run := state.run.complain ("find: '" ++ name ++ "': " ++ plainMessage e)
            code := 1 }) ⟨run, 0, false, false, []⟩
    state.gathered.foldl (fun (code, run) (words, names) =>
      let (result, run) := launch "find" (words ++ names) run
      (if result = 0 then code else 1, { run with killedBy := none })) (state.code, state.run)

end LineShell.Machine
