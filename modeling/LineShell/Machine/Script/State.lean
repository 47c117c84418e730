import LineShell.Machine.Script.Fields
import LineShell.Machine.Tool.Condition
import LineShell.Machine.Tool.Printf

/-!
# Interpreters of scripts

What an interpreter knows while it runs a script, and the commands that it carries out itself
without running other commands.
-/
namespace LineShell.Machine.Script

/-- What comes after a command. -/
inductive Control where
  | next
  | leaveLoops (count : Nat)
  | repeatLoop (count : Nat)
  | leaveFunction
  | exit
  deriving Repr, DecidableEq

/-- A command in the background. -/
structure Job where
  pid : Pid
  ends : Nat
  status : Nat
  /-- The signal that ended it, if one did. -/
  killedBy : Option Nat
  deriving Repr, DecidableEq

structure State where
  run : Run
  vars : Environment
  /-- The variables that programs inherit. -/
  exported : List String
  /-- The variables that cannot be set. -/
  constants : List String
  /-- What the variables of the functions that run were before, the innermost function first. -/
  hidden : List (List (String × Option String))
  /-- The name of the script. -/
  name : String
  args : List String
  functions : List (String × Command)
  status : Nat
  control : Control
  /-- The letters of the options that are set. -/
  options : List Char
  /-- Whether it is only tested what comes of a command. -/
  tested : Bool
  /-- The number of loops around a command. -/
  loops : Nat
  /-- The line of the command that runs. -/
  line : Nat
  /-- What is done at signals; zero is the end of the script. -/
  traps : List (Nat × String)
  /-- The commands in the background, the last first. -/
  jobs : List Job
  /-- How far into a word of options a reader has got. -/
  optionOffset : Nat
  /-- The status before what is done at a signal or at the end. -/
  before : Option Nat

namespace State

def start (run : Run) (name : String) (args : List String) : State :=
  { run
    vars := ((run.env.set "PWD" (Raw.decode run.cwd)).setDefault "IFS" " \t\n").setDefault
      "OPTIND" "1"
    exported := "PWD" :: run.env.map (·.1)
    constants := []
    hidden := []
    name
    args
    functions := []
    status := 0
    control := .next
    options := []
    tested := false
    loops := 0
    line := 1
    traps := []
    jobs := []
    optionOffset := 0
    before := none }

/-- The state of a part of a script that runs apart from it. -/
def forked (state : State) : State :=
  { state with
    run := { state.run with lingers := 0 }
    traps := state.traps.filter (·.2 = "")
    jobs := [] }

/-- The state after a part of a script that ran apart from it. -/
def rejoin (outer inner : State) : State :=
  { outer with run := outer.run.rejoin inner.run, status := inner.status }

def environment (state : State) : Environment :=
  state.vars.filter fun v => state.exported.contains v.1

/-- The characters at which values are cut. -/
def separators (state : State) : List Char :=
  ((state.vars.get? "IFS").getD " \t\n").toList

def joinedArgs (state : State) : String :=
  let separator := match state.vars.get? "IFS" with
    | none => " "
    | some text => String.ofList (text.toList.take 1)
  separator.intercalate state.args

def value? (state : State) (name : String) : Option String :=
  match name with
  | "#" => some (toString state.args.length)
  | "?" => some (toString state.status)
  | "$" => some (toString state.run.pid)
  | "!" => state.jobs.head?.map fun job => toString job.pid
  | "-" => some (String.ofList ("ubaCEVvxsnmiIfe".toList.filter state.options.contains))
  | "0" => some state.name
  | "@" | "*" => if state.args.isEmpty then none else some state.joinedArgs
  | name =>
    match name.toNat? with
    | some n => state.args[n - 1]?
    | none => state.vars.get? name

def set (state : State) (name value : String) : State :=
  { state with
    vars := state.vars.set name value
    exported := if state.options.contains 'a' then name :: state.exported else state.exported
    optionOffset := if name = "OPTIND" then 0 else state.optionOffset }

def forget (state : State) (name : String) : State :=
  { state with
    vars := state.vars.filter (·.1 != name)
    exported := state.exported.filter (· != name) }

/-- Gives a variable a value that it had before, or none. -/
def restore (state : State) (name : String) (value : Option String) : State :=
  match value with
  | some value => { state with vars := state.vars.set name value }
  | none => { state with vars := state.vars.filter (·.1 != name) }

def withStatus (state : State) (status : Nat) : State :=
  { state with status }

/-- How a complaint begins: the name of the script and the number of a line. -/
def label (state : State) : String :=
  state.name ++ ": " ++ toString state.line ++ ": "

def complain (state : State) (status : Nat) (text : String) : State :=
  { state with run := state.run.complain (state.label ++ text), status }

/-- Complains, and ends the script. -/
def abort (state : State) (text : String) : State :=
  { state.complain 2 text with control := .exit }

def useTool (state : State) (tool : Tool) (args : List String) : State :=
  let (status, run) := tool args state.run
  { state with run, status }

/-- Shows words on the standard error, if the script is told to. -/
def trace (state : State) (words : List String) : State :=
  if state.options.contains 'x' && !words.isEmpty then
    { state with run := state.run.complain ("+ " ++ " ".intercalate words) }
  else state

/-- Ends the script after a command that failed, if it is told to. -/
def checkFailure (state : State) : State :=
  if state.options.contains 'e' && !state.tested && state.status ≠ 0 && state.control = .next then
    { state with control := .exit }
  else state

end State

/-- Sets a variable that may be set. -/
def assignVariable (state : State) (name value : String) : State :=
  if state.constants.contains name then state.abort (name ++ ": is read only")
  else state.set name value

/-- Makes a path from the root without dots: each pair of dots takes back the name before it. -/
def tidyPath (path : Path) : Path :=
  Place.path ((Path.names path).foldl (fun place name =>
    if name = [Path.dot] then place
    else if name = [Path.dot, Path.dot] then place.dropLast
    else place ++ [name]) [])

/-- Prints words, in which escapes are replaced. -/
def runEchoWords (args : List String) (state : State) : State :=
  let (last, args) := match args with
    | "-n" :: args => ("", args)
    | args => ("\n", args)
  let text := (" ".intercalate args).toList
  let text := Printf.unescapeText (Printf.Dialect.argumentEscapes ⟨"", false⟩) text.length text
  let last := if text.stops then "" else last
  { state with run := state.run.write (text.bytes ++ Raw.encode last), status := 0 }

/-- Changes the working directory. -/
def runChangeDir (args : List String) (state : State) : State :=
  let args := args.dropWhile fun a => a = "-L" || a = "-P" || a = "--"
  let old := state.run.cwd
  let asked := args.headD ((state.vars.get? "HOME").getD "")
  let target := if asked = "-" then (state.vars.get? "OLDPWD").getD "" else asked
  if target = "" then state.withStatus 0
  else
    let dir := tidyPath (Raw.path old target)
    if state.run.files.isDir (Raw.path old target) && state.run.files.isDir dir then
      let run := { state.run with cwd := dir }
      let run := if asked = "-" then run.put (Raw.decode dir ++ "\n") else run
      { (state.set "OLDPWD" (Raw.decode old)).set "PWD" (Raw.decode dir) with run, status := 0 }
    else state.complain 2 ("cd: can't cd to " ++ target)

/-- Text without the backslashes that protect its characters; these are marked. -/
def dropBackslashes : List Char → List Glyph
  | '\\' :: '\n' :: cs => dropBackslashes cs
  | '\\' :: c :: cs => (c, true) :: dropBackslashes cs
  | ['\\'] => []
  | c :: cs => (c, false) :: dropBackslashes cs
  | [] => []

/-- The fields of a line for some variables; the last one takes the rest of the line. -/
def fieldsOfLine (separators : List Char) : Nat → List Glyph → List String
  | 0, _ => []
  | count + 1, s =>
    let isSeparator := fun (g : Glyph) => !g.2 && separators.contains g.1
    let isBlank := fun (g : Glyph) => isSeparator g && [' ', '\t', '\n'].contains g.1
    let s := s.dropWhile isBlank
    let field := s.takeWhile (!isSeparator ·)
    let after := s.drop field.length
    let rest := after.dropWhile isBlank
    let rest := if rest.head?.any isSeparator then (rest.drop 1).dropWhile isBlank else rest
    if count = 0 then
      if rest.isEmpty then [plainText field] else [plainText (Text.dropEndWhile isBlank s)]
    else plainText field :: fieldsOfLine separators count rest

/-- The lines of the input that backslashes at their ends join, without the last line end, and
whether that was there; `limit` bounds their number. -/
def readJoined (raw : Bool) : Nat → Run → List Char × Bool × Run
  | 0, run => ([], false, run)
  | limit + 1, run =>
    let (bytes, run) := run.takeLines 1
    let complete := bytes.getLast? == some 10
    let text := (Raw.decode (if complete then bytes.dropLast else bytes)).toList
    let slashes := (text.reverse.takeWhile (· == '\\')).length
    if complete && !raw && slashes % 2 = 1 then
      let (more, complete, run) := readJoined raw limit run
      (text.dropLast ++ more, complete, run)
    else (text, complete, run)

def runRead (args : List String) (state : State) : State :=
  let raw := args.head? = some "-r"
  let names := if raw then args.tail else args
  let (state, names) := match names with
    | "-p" :: text :: names => ({ state with run := state.run.complain text }, names)
    | names => (state, names)
  if names.isEmpty then state.complain 2 "read: arg count"
  else
    let (text, complete, run) := readJoined raw 1000 state.run
    let glyphs := if raw then text.map (·, false) else dropBackslashes text
    let fields := fieldsOfLine state.separators names.length glyphs
    let state : State := (names.zip fields).foldl (fun state (n, v) => assignVariable state n v)
      { state with run }
    if state.control = Control.exit then state else state.withStatus (codeOf complete)

/-- A number that a command takes as its argument. -/
def countOf (args : List String) (other : Nat) : Nat :=
  ((args.head?).bind (·.toNat?)).getD other

/-- The name and the value of an argument of the form `name=value`. -/
def splitSetting (arg : String) : String × Option String :=
  let name := arg.toList.takeWhile (· != '=')
  match arg.toList.drop name.length with
  | [] => (arg, none)
  | _ :: value => (String.ofList name, some (String.ofList value))

/-- A value as a script would write it. -/
def quotedValue (value : String) : String :=
  "'" ++ "'\"'\"'".intercalate (value.splitOn "'") ++ "'"

def listVariables (word : String) (names : List String) (state : State) : State :=
  let names := names.eraseDups.mergeSort fun a b => decide (a ≤ b)
  let line (name : String) : String :=
    word ++ " " ++ name ++ ((state.vars.get? name).map fun v => "=" ++ quotedValue v).getD ""
      ++ "\n"
  { state with run := state.run.put (String.join (names.map line)), status := 0 }

/-- Marks variables for the environment of programs, and sets those that have a value. -/
def runExport (args : List String) (state : State) : State :=
  let args := args.filter (· ≠ "--")
  if args.isEmpty || args = ["-p"] then listVariables "export" state.exported state
  else
    args.foldl (fun state arg =>
      let (name, value) := splitSetting arg
      let state := { state with exported := name :: state.exported }
      match value with
      | some value => assignVariable state name value
      | none => state) (state.withStatus 0)

/-- Sets variables for good. -/
def runReadonly (args : List String) (state : State) : State :=
  if args.isEmpty || args = ["-p"] then listVariables "readonly" state.constants state
  else
    args.foldl (fun state arg =>
      let (name, value) := splitSetting arg
      let state := match value with
        | some value => assignVariable state name value
        | none => state
      { state with constants := name :: state.constants }) (state.withStatus 0)

/-- Makes variables that last as long as a function runs. -/
def runLocal (args : List String) (state : State) : State :=
  match state.hidden with
  | [] => state.abort "local: not in a function"
  | own :: others =>
    let settings := args.map splitSetting
    let kept := settings.map fun (name, _) => (name, state.vars.get? name)
    let state := { state with hidden := (kept ++ own) :: others, status := 0 }
    settings.foldl (fun state (name, value) =>
      match value with
      | some value => assignVariable state name value
      | none => state) state

/-- Forgets variables or functions. -/
def runUnset (args : List String) (state : State) : State :=
  let names := args.filter fun a => a ≠ "-v" && a ≠ "-f"
  let state := state.withStatus 0
  if args.head? = some "-f" then
    { state with functions := state.functions.filter fun f => !names.contains f.1 }
  else
    match names.find? state.constants.contains with
    | some name => state.abort ("unset: " ++ name ++ ": is read only")
    | none => names.foldl State.forget state

/-- The letters of options by their names. -/
def optionLetter? (name : String) : Option Char :=
  [("errexit", 'e'), ("noglob", 'f'), ("ignoreeof", 'I'), ("interactive", 'i'), ("monitor", 'm'),
    ("noexec", 'n'), ("stdin", 's'), ("xtrace", 'x'), ("verbose", 'v'), ("vi", 'V'),
    ("emacs", 'E'), ("noclobber", 'C'), ("allexport", 'a'), ("notify", 'b'),
    ("nounset", 'u')].lookup name

def withOption (on : Bool) (options : List Char) (letter : Char) : List Char :=
  let others := options.filter (· != letter)
  if on then others ++ [letter] else others

def runSet : List String → State → State
  | [], state => state.withStatus 0
  | "--" :: args, state => { state with args, status := 0 }
  | "-" :: args, state => { state with args := if args.isEmpty then state.args else args, status := 0 }
  | "-o" :: name :: args, state | "+o" :: name :: args, state =>
    match optionLetter? name with
    | some letter => runSet args { state with options := withOption true state.options letter }
    | none => state.abort ("set: Illegal option -o " ++ name)
  | arg :: args, state =>
    match arg.toList with
    | sign :: letters =>
      if sign = '-' || sign = '+' then
        let letters := letters.filter (· != 'o')
        match letters.find? fun c => !"efImnsxvVECabui".toList.contains c with
        | some bad => state.abort ("set: Illegal option -" ++ bad.toString)
        | none =>
          let options := letters.foldl (withOption (sign == '-')) state.options
          runSet args { state with options }
      else { state with args := arg :: args, status := 0 }
    | [] => { state with args := arg :: args, status := 0 }

/-- Takes arguments away. -/
def runShift (args : List String) (state : State) : State :=
  let count := countOf args 1
  if state.args.length < count then state.abort "shift: can't shift that many"
  else { state with args := state.args.drop count, status := 0 }

def signals : List (String × Nat) := [
  ("EXIT", 0), ("HUP", 1), ("INT", 2), ("QUIT", 3), ("ILL", 4), ("TRAP", 5), ("ABRT", 6),
  ("BUS", 7), ("FPE", 8), ("KILL", 9), ("USR1", 10), ("SEGV", 11), ("USR2", 12), ("PIPE", 13),
  ("ALRM", 14), ("TERM", 15), ("STKFLT", 16), ("CHLD", 17), ("CONT", 18), ("STOP", 19),
  ("TSTP", 20), ("TTIN", 21), ("TTOU", 22), ("URG", 23), ("XCPU", 24), ("XFSZ", 25),
  ("VTALRM", 26), ("PROF", 27), ("WINCH", 28), ("IO", 29), ("PWR", 30), ("SYS", 31)]

def signalNumber? (word : String) : Option Nat :=
  let name := if word.startsWith "SIG" then String.ofList (word.toList.drop 3) else word
  ((signals.lookup name).or name.toNat?).filter (· ≤ 64)

/-- The wording for the end of a program that a signal ended; some are passed over. -/
def signalText (signal : Nat) : String :=
  ([(1, "Hangup"), (3, "Quit"), (4, "Illegal instruction"), (5, "Trace/breakpoint trap"),
    (6, "Aborted"), (7, "Bus error"), (8, "Floating point exception"), (9, "Killed"),
    (10, "User defined signal 1"), (11, "Segmentation fault"), (12, "User defined signal 2"),
    (14, "Alarm clock"), (15, "Terminated")].lookup signal).getD ""

def runWait (args : List String) (state : State) : State :=
  let waitFor (state : State) (job : Job) : State :=
    if job.ends ≤ state.run.elapsed then state
    else { state with run := state.run.sleep (job.ends - state.run.elapsed) }
  if args.isEmpty then (state.jobs.foldl waitFor state).withStatus 0
  else
    args.foldl (fun state arg =>
      match state.jobs.find? fun job => toString job.pid = arg with
      | some job =>
        -- What ended before is known already.
        let message := if job.ends < state.run.elapsed then "" else job.killedBy.elim "" signalText
        let waited := (waitFor state job).withStatus job.status
        if message = "" then waited else { waited with run := waited.run.complain message }
      | none => state.withStatus 127) state

/-- The next option among words, for a reader that is at a word and at a place in it: the option
and its value, or none at the end, and the next place. An option that is not known is a question
mark, with itself as its value. -/
def nextOption (spec : List Char) (args : List String) (index offset : Nat) :
    Option (Char × Option String × Option String) × Nat × Nat :=
  let silent := spec.head? = some ':'
  let word := ((args[index - 1]?).getD "").toList
  if offset = 0 && (word.length < 2 || word.head? ≠ some '-') then (none, index, 0)
  else if offset = 0 && word = ['-', '-'] then (none, index + 1, 0)
  else
    let place := max offset 1
    let c := word.getD place '-'
    let last := word.length ≤ place + 1
    let (index', offset') := if last then (index + 1, 0) else (index, place + 1)
    match (spec.dropWhile (· != c)), c == ':' with
    | [], _ | _, true =>
      if silent then (some ('?', some c.toString, none), index', offset')
      else (some ('?', none, some ("Illegal option -" ++ c.toString)), index', offset')
    | _ :: after, _ =>
      if after.head? = some ':' then
        if !last then (some (c, some (String.ofList (word.drop (place + 1))), none), index + 1, 0)
        else
          match args[index]? with
          | some value => (some (c, some value, none), index + 2, 0)
          | none =>
            if silent then (some (':', some c.toString, none), index + 1, 0)
            else (some ('?', none, some ("No arg for -" ++ c.toString ++ " option")), index + 1, 0)
      else (some (c, none, none), index', offset')

/-- Reads the next option of the script. -/
def runOptions (args : List String) (state : State) : State :=
  match args with
  | spec :: name :: words =>
    let words := if words.isEmpty then state.args else words
    let index := max 1 (countOf (state.vars.get? "OPTIND").toList 1)
    let (found, index, offset) := nextOption spec.toList words index state.optionOffset
    let state := { (state.set "OPTIND" (toString index)) with optionOffset := offset }
    match found with
    | none => (state.set name "?").withStatus 1
    | some (letter, value, complaint) =>
      let state := match complaint with
        | some text => { state with run := state.run.complain text }
        | none => state
      let state := match value with
        | some value => state.set "OPTARG" value
        | none => { state with vars := state.vars.filter (·.1 != "OPTARG") }
      (state.set name letter.toString).withStatus 0
  | _ => state.abort "getopts: Usage: getopts optstring var [arg]"

/-- The words for commands whose faults end a script. -/
def specialNames : List String := [
  ".", ":", "break", "continue", "eval", "exec", "exit", "export", "readonly", "return", "set",
  "shift", "times", "trap", "unset"]

/-- The words for commands that an interpreter carries out itself. -/
def ownNames : List String := specialNames ++ [
  "[", "alias", "bg", "cd", "chdir", "command", "echo", "false", "fg", "getopts", "hash", "jobs",
  "kill", "local", "printf", "pwd", "read", "test", "true", "type", "ulimit", "umask", "unalias",
  "wait"]

/-- What a command that the interpreter carries out itself does, unless it has none of that name
or needs to run other commands. -/
def builtin? (name : String) (args : List String) : Option (State → State) :=
  match name with
  | ":" | "true" => some (·.withStatus 0)
  | "false" => some (·.withStatus 1)
  | "echo" => some (runEchoWords args)
  | "printf" =>
    some fun state =>
      match args with
      | [] | ["--"] => state.complain 2 "printf: usage: printf format [arg ...]"
      | "--" :: format :: args | format :: args =>
        state.useTool (fun args => Printf.run ⟨state.label ++ "printf: ", false⟩ format args) args
  | "test" => some fun state => state.useTool (scriptTest (state.label ++ "test: ")) args
  | "[" => some fun state => state.useTool (scriptBracket (state.label ++ "[: ")) args
  | "pwd" =>
    some fun state =>
      { state with run := state.run.put (Raw.decode state.run.cwd ++ "\n"), status := 0 }
  | "cd" | "chdir" => some (runChangeDir args)
  | "read" => some (runRead args)
  | "exit" =>
    some fun state =>
      match args with
      | [] => { state with status := state.before.getD state.status, control := .exit }
      | word :: _ =>
        match word.toNat? with
        | some n => { state with status := n % 256, control := .exit }
        | none => state.abort ("exit: Illegal number: " ++ word)
  | "return" =>
    some fun state =>
      { state with status := countOf args state.status % 256, control := .leaveFunction }
  | "break" =>
    some fun state =>
      let count := min (countOf args 1) state.loops
      { state with control := if count = 0 then .next else .leaveLoops count, status := 0 }
  | "continue" =>
    some fun state =>
      let count := min (countOf args 1) state.loops
      { state with control := if count = 0 then .next else .repeatLoop count, status := 0 }
  | "export" => some (runExport args)
  | "readonly" => some (runReadonly args)
  | "local" => some (runLocal args)
  | "unset" => some (runUnset args)
  | "set" => some (runSet args)
  | "shift" => some (runShift args)
  | "wait" => some (runWait args)
  | "getopts" => some (runOptions args)
  | "umask" =>
    some fun state =>
      if args.isEmpty then { state with run := state.run.put "0022\n", status := 0 }
      else state.withStatus 0
  | "times" =>
    some fun state =>
      { state with run := state.run.put "0m0.00s 0m0.00s\n0m0.00s 0m0.00s\n", status := 0 }
  | "hash" | "alias" | "unalias" | "ulimit" | "fg" | "bg" | "jobs" => some (·.withStatus 0)
  | _ => none

end LineShell.Machine.Script
