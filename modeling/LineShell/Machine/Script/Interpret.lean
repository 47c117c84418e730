import LineShell.Machine.Image
import LineShell.Machine.Script.Arithmetic
import LineShell.Machine.Script.Redirect
import LineShell.Machine.Script.Runner
import LineShell.Machine.Script.State
import LineShell.Machine.Tool.Table

/-!
# Running scripts and programs

A script runs programs, and programs run scripts, so that both are defined together. The first
argument of each function bounds how deeply all this is nested; where it is used up, a script does
not end.
-/
namespace LineShell.Machine.Script

/-- How deeply commands and programs may be nested. -/
def maxDepth : Nat := 20000

/-- The variables that the words at the front of a command set, and the other words. -/
def splitAssignments : List Word → List (String × Word) × List Word
  | [] => ([], [])
  | word :: rest =>
    let isNamePart : Part → Bool
      | .bare [c] => isNameChar c
      | _ => false
    let named := word.takeWhile isNamePart
    let name := String.ofList (literalText named)
    match word.drop named.length with
    | .bare ['='] :: value =>
      if isName name then
        let (assignments, words) := splitAssignments rest
        ((name, value) :: assignments, words)
      else ([], word :: rest)
    | _ => ([], word :: rest)

/-- Whether a word runs a script to get at its text. -/
def hasOutput (word : Word) : Bool :=
  word.any fun
    | .output .. => true
    | _ => false

/-- A word in which a tilde at the front stands for the home directory. -/
def expandTilde (home : Option String) (word : Word) : Word :=
  match home, word with
  | some home, [.bare ['~']] => [.quoted home.toList]
  | some home, .bare ['~'] :: .bare ['/'] :: rest => .quoted home.toList :: .bare ['/'] :: rest
  | _, word => word

/-- A value without the shortest or longest piece at its front or back that a pattern matches. -/
def trimPattern (operator : String) (pattern : List Glyph) (value : String) : String :=
  let s := value.toList
  let lengths := List.range (s.length + 1)
  let lengths := if operator = "##" || operator = "%%" then lengths.reverse else lengths
  let cut (n : Nat) : List Char × List Char :=
    if operator.startsWith "#" then s.splitAt n
    else let (rest, piece) := s.splitAt (s.length - n); (piece, rest)
  match lengths.find? fun n => matches? pattern (String.ofList (cut n).1) with
  | some n => String.ofList (cut n).2
  | none => value

/-- A time that no clock gets to. -/
def forever : Nat := Nat.pow 10 12

/-- The state of a script that does not end. -/
def abandon (state : State) : State :=
  { state with run := state.run.waitUntil forever, status := 2, control := .exit }

/-- The state in which the commands of a function or of a script leave theirs. -/
def settle (state : State) : State :=
  match state.control with
  | .leaveFunction => { state with control := .next }
  | _ => state

/-- What is cut into fields where a word becomes them. -/
inductive Cutting where
  | nothing
  /-- Values that are not quoted. -/
  | values
  /-- All text that is not quoted. -/
  | all
  deriving Repr, DecidableEq

/-- Whether a simple command has a name that makes its faults end a script. -/
def isSpecial (command : Command) : Bool :=
  match command with
  | .simple _ words => (words.head?.map fun w =>
      specialNames.contains (String.ofList (literalText w))).getD false
  | _ => false

/-- Whether a command only leads the streams of the script itself elsewhere. -/
def isLasting (command : Command) : Bool :=
  match command with
  | .simple _ [word] => literalText word == "exec".toList
  | _ => false

/-- Starts a command in the background that has been run to its end: what it does at once happens,
and the rest later. -/
def State.startJob (state : State) (pid : Pid) (child : State) : State :=
  let all := inOrder (child.run.done.reverse ++ child.run.pending)
  let (due, later) := all.partition (·.time ≤ state.run.elapsed)
  { state with
    run := { state.run with
      files := due.foldl (fun fs event => event.effect.onFiles fs) state.run.files
      done := due.reverse ++ state.run.done
      pending := state.run.pending ++ later.map fun event => { event with pid }
      lingers := max state.run.lingers (max child.run.elapsed child.run.lingers)
      nextPid := child.run.nextPid
      nextChannel := child.run.nextChannel }
    jobs := ⟨pid, child.run.elapsed, child.status, child.run.killedBy⟩ :: state.jobs
    status := 0 }

def State.endJob (state : State) (job : Job) (signal : Nat) : State :=
  let ended : Job := { job with
    ends := state.run.elapsed
    status := 128 + signal
    killedBy := some signal }
  { state with
    run := { state.run with pending := state.run.pending.filter (·.pid != job.pid) }
    jobs := state.jobs.map fun j => if j.pid == job.pid then ended else j }

/-- The signals that do nothing unless a script says so. -/
def harmlessSignals : List Nat := [17, 18, 23, 28]

/-- The place of a name of a command: what kind of command it is, in words, and the text that it
stands for. -/
def State.describe (state : State) (name : String) : Option (String × String) :=
  if reservedWords.contains name then some ("a shell keyword", name)
  else if specialNames.contains name then some ("a special shell builtin", name)
  else if (state.functions.lookup name).isSome then some ("a shell function", name)
  else if ownNames.contains name then some ("a shell builtin", name)
  else
    (findProgram state.run.files state.run.cwd state.environment (some "sh") [name]).toOption.map
      fun found => (found.path, found.path)

/-- The path of a script that another one reads in: a name without a slash is looked up. -/
def State.findScript? (state : State) (name : String) : Option String :=
  if name.contains '/' then some name
  else (candidates state.environment name).find? fun path =>
    state.run.files.isFile (state.run.resolve path)

mutual

/-- Adds what parts of a word become to fields. -/
def expandParts : Nat → Cutting → List Part → Fields × State → Fields × State
  | 0, _, _, (fields, state) => (fields, abandon state)
  | _, _, [], done => done
  | fuel + 1, cutting, .quoted [] :: .value true "@" "" _ :: rest, (fields, state) =>
    expandParts fuel cutting rest (fields.addAll state.args, state)
  | fuel + 1, cutting, part :: rest, (fields, state) =>
    if state.control = .exit then (fields, state)
    else expandParts fuel cutting rest (expandPart fuel cutting part fields state)

/-- Adds what a part of a word becomes to fields. -/
def expandPart : Nat → Cutting → Part → Fields → State → Fields × State
  | 0, _, _, fields, state => (fields, abandon state)
  | fuel + 1, cutting, part, fields, state =>
    let separators := if cutting = .nothing then [] else state.separators
    let insert (quoted : Bool) (text : String) : Fields :=
      if quoted then fields.add true text.toList else fields.addSplit separators text.toList
    match part with
    | .bare text =>
      (if cutting = .all then fields.addSplit separators text else fields.add false text, state)
    | .quoted text => (fields.add true text, state)
    | .output quoted script =>
      let (bytes, state) := capture fuel script state
      (insert quoted (Raw.decode (Text.dropEndWhile (· == 10) bytes)), state)
    | .sum quoted expression =>
      let parts := match partsOf .document expression with
        | .ok (parts, _) => parts
        | .error _ => [.quoted expression]
      let (inner, state) := expandParts fuel .nothing parts (.empty, state)
      let text := plainText inner.joined
      if state.control = .exit then (fields, state)
      else
        match sum state.vars text.toList with
        | .ok (n, vars) => (insert quoted (toString n), { state with vars })
        | .error e => (fields, state.abort (e.message text))
    | .value quoted name operator operand =>
      let value := state.value? name
      let isMissing := if operator.startsWith ":" then value.getD "" = "" else value.isNone
      let isList := name = "@" || name = "*"
      let whole (fields : Fields) : Fields :=
        if name = "@" && quoted then fields.addAll state.args
        else if isList && !quoted && cutting ≠ .nothing then
          match state.args with
          | [] => fields
          | first :: rest =>
            rest.foldl (fun fields arg => fields.close.addSplit separators arg.toList)
              (fields.addSplit separators first.toList)
        else insert quoted (value.getD "")
      let operandMode := if cutting = .nothing || quoted then cutting else .all
      if value.isNone && state.options.contains 'u' && !isList
          && ["", "length", "#", "##", "%", "%%"].contains operator then
        (fields, state.abort (name ++ ": parameter not set"))
      else
        match operator with
        | "" => (whole fields, state)
        | "bad" => (fields, state.abort "Bad substitution")
        | "length" =>
          let n := if isList then state.args.length else (value.getD "").utf8ByteSize
          (insert quoted (toString n), state)
        | ":-" | "-" =>
          if isMissing then expandParts fuel operandMode operand (fields, state)
          else (whole fields, state)
        | ":+" | "+" =>
          if isMissing then (fields, state)
          else expandParts fuel operandMode operand (fields, state)
        | ":=" | "=" =>
          if isMissing then
            let (inner, state) := expandParts fuel .nothing operand (.empty, state)
            let text := plainText inner.joined
            (insert quoted text, assignVariable state name text)
          else (whole fields, state)
        | ":?" | "?" =>
          if isMissing then
            let (inner, state) := expandParts fuel .nothing operand (.empty, state)
            let text := plainText inner.joined
            let text :=
              if text ≠ "" then text
              else if operator = ":?" then "parameter not set or null" else "parameter not set"
            (fields, state.abort (name ++ ": " ++ text))
          else (whole fields, state)
        | operator =>
          let (inner, state) := expandParts fuel .nothing operand (.empty, state)
          (insert quoted (trimPattern operator inner.joined (value.getD "")), state)

/-- The text that a word becomes where it is not cut into fields. -/
def expandText : Nat → Word → State → List Glyph × State
  | 0, _, state => ([], abandon state)
  | fuel + 1, word, state =>
    let word := expandTilde (state.vars.get? "HOME") word
    let (fields, state) := expandParts fuel .nothing word (.empty, state)
    (fields.joined, state)

def expandWords : Nat → List Word → State → List String × State
  | 0, _, state => ([], abandon state)
  | _, [], state => ([], state)
  | fuel + 1, word :: rest, state =>
    let word := expandTilde (state.vars.get? "HOME") word
    let (fields, state) := expandParts fuel .values word (.empty, state)
    let texts :=
      if state.options.contains 'f' then fields.toList.map plainText
      else fields.toList.flatMap (globField state.run.files state.run.cwd)
    if state.control = .exit then ([], state)
    else
      let (others, state) := expandWords fuel rest state
      (texts ++ others, state)

/-- What a script prints that runs apart from the one around it. -/
def capture : Nat → List Char → State → Bytes × State
  | 0, _, state => ([], abandon state)
  | fuel + 1, script, state =>
    let (channel, run) := state.run.openChannel
    let inner := finish fuel (runText fuel script
      { state.forked with run := { run with output := .channel channel, lingers := 0 } })
    let (flow, run) := (inner.run.waitUntil inner.run.lingers).closeChannel channel
    (flow.bytes, state.rejoin { inner with run })

def runText : Nat → List Char → State → State
  | 0, _, state => abandon state
  | fuel + 1, script, state =>
    match nextLine (beginning script) with
    | .ok (none, _) => state.withStatus 0
    | _ => runLines fuel (beginning script) state

def runLines : Nat → Rest → State → State
  | 0, _, state => abandon state
  | fuel + 1, rest, state =>
    match nextLine rest with
    | .error (line, fault) => { state with line }.abort fault.message
    | .ok (none, _) => state
    | .ok (some command, rest) =>
      let after := execute fuel command state
      if after.control ≠ .next then after else runLines fuel rest after

def assign : Nat → List (String × Word) → State → State
  | 0, _, state => abandon state
  | _, [], state => state
  | fuel + 1, (name, word) :: rest, state =>
    let (text, state) := expandText fuel word state
    if state.control = .exit then state
    else assign fuel rest ((assignVariable state name (plainText text)).trace
      [name ++ "=" ++ plainText text])

/-- Leads streams elsewhere; the flag tells whether that went well. -/
def leadStreams : Nat → List Redirect → State → Bool × State
  | 0, _, state => (false, abandon state)
  | _, [], state => (true, state)
  | fuel + 1, redirect :: rest, state =>
    let (text, state) := expandText fuel redirect.target state
    if state.control = .exit then (false, state)
    else
      match leadStream state.run (state.options.contains 'C') redirect (plainText text) with
      | .ok run => leadStreams fuel rest { state with run }
      | .error e => (false, state.complain 2 e)

def execute : Nat → Command → State → State
  | 0, _, state => abandon state
  | fuel + 1, command, state =>
    match command with
    | .simple line words =>
      let state := { state with line }
      let (assignments, words) := splitAssignments words
      let (texts, state) := expandWords fuel words state
      if state.control ≠ .next then state
      else
        let state := state.trace texts
        match texts with
        | [] =>
          let state := assign fuel assignments state
          let state :=
            if state.control = .exit || (assignments.map (·.2) ++ words).any hasOutput then state
            else state.withStatus 0
          state.checkFailure
        | name :: args =>
          if assignments.isEmpty then (runNamed fuel name args state).checkFailure
          else
            let inner := assign fuel assignments state
            if inner.control = .exit then inner
            else if specialNames.contains name then (runNamed fuel name args inner).checkFailure
            else
              let names := assignments.map (·.1)
              let after := runNamed fuel name args { inner with exported := names ++ inner.exported }
              let after := names.foldl (fun after name =>
                after.restore name (state.vars.get? name)) after
              { after with exported := after.exported.drop names.length }.checkFailure
    | .redirected line inner redirects =>
      let (ok, opened) := leadStreams fuel redirects { state with line }
      let after :=
        if ok then execute fuel inner opened
        else if isSpecial inner then { opened with control := .exit }
        else opened
      if ok && isLasting inner then after
      else
        let after := { after with run := restoreStreams redirects state.run after.run }
        if ok then after else after.checkFailure
    | .pipeline negated stages =>
      let inner := if negated then { state with tested := true } else state
      let after := match stages with
        | [single] => execute fuel single inner
        | stages => runStages fuel state.run.elapsed stages inner
      let after := { after with tested := state.tested }
      if negated then
        if after.control = .exit then after else after.withStatus (if after.status = 0 then 1 else 0)
      else after.checkFailure
    | .both first second =>
      let after := test fuel first state
      if after.control = .next && after.status = 0 then execute fuel second after else after
    | .either first second =>
      let after := test fuel first state
      if after.control = .next && after.status ≠ 0 then execute fuel second after else after
    | .sequence commands => executeAll fuel commands state
    | .background inner =>
      let pid := state.run.nextPid
      let child := finish fuel (execute fuel inner { state.forked with
        run := { state.run with
          input := .empty
          inputSize := none
          pid
          nextPid := pid + 1
          done := []
          pending := []
          lingers := 0 } })
      state.startJob pid child
    | .condition condition yes no =>
      let after := test fuel condition state
      if after.control ≠ .next then after
      else if after.status = 0 then execute fuel yes after
      else
        match no with
        | .sequence [] => after.withStatus 0
        | no => execute fuel no after
    | .loop stopWhen condition body =>
      let after := runLoop fuel stopWhen condition body 0 { state with loops := state.loops + 1 }
      { after with loops := state.loops }
    | .each line name words body =>
      let (texts, state) := match words with
        | none => (state.args, state)
        | some words => expandWords fuel words { state with line }
      if state.control = .exit then state
      else
        let after := runEach fuel name texts body
          { state.withStatus 0 with loops := state.loops + 1 }
        { after with loops := state.loops }
    | .select line word arms =>
      let (text, state) := expandText fuel word { state with line }
      if state.control = .exit then state else runArms fuel (plainText text) arms state
    | .subshell line inner =>
      let after := state.rejoin (finish fuel (execute fuel inner { state.forked with line }))
      after.checkFailure
    | .function _ name body =>
      { state with
        functions := (name, body) :: state.functions.filter (·.1 != name), status := 0 }

/-- Runs a command to see what comes of it. -/
def test : Nat → Command → State → State
  | 0, _, state => abandon state
  | fuel + 1, command, state =>
    { execute fuel command { state with tested := true } with tested := state.tested }

def executeAll : Nat → List Command → State → State
  | 0, _, state => abandon state
  | _, [], state => state
  | fuel + 1, command :: rest, state =>
    let after := execute fuel command state
    if after.control ≠ .next then after else executeAll fuel rest after

/-- Runs the stages of a pipeline, all from the same time on and apart from the script. -/
def runStages : Nat → Nat → List Command → State → State
  | 0, _, _, state => abandon state
  | _, _, [], state => state
  | fuel + 1, begun, stage :: rest, state =>
    let late := state.run.elapsed
    let run := { state.run with elapsed := begun }
    if rest.isEmpty then
      let inner := finish fuel (execute fuel stage { state.forked with run })
      let after := state.rejoin inner
      { after with run := { after.run with elapsed := max late after.run.elapsed } }
    else
      let (channel, run) := run.openChannel
      let inner := finish fuel (execute fuel stage
        { state.forked with run := { run with output := .channel channel, lingers := 0 } })
      let ready := max inner.run.elapsed inner.run.lingers
      let (flow, run) := inner.run.closeChannel channel
      let after := state.rejoin { inner with run }
      let ended := runStages fuel begun rest { after with
        run := { after.run with
          input := flow
          inputReady := ready
          inputSize := none
          elapsed := max late after.run.elapsed } }
      { ended with
        run := { ended.run with
          input := inner.run.input
          inputReady := state.run.inputReady
          inputSize := state.run.inputSize } }

/-- Runs a loop; `status` is that of the last time that its body ran. -/
def runLoop : Nat → Bool → Command → Command → Nat → State → State
  | 0, _, _, _, _, state => abandon state
  | fuel + 1, stopWhen, condition, body, status, state =>
    let tested := test fuel condition state
    match tested.control with
    | .next =>
      if (tested.status == 0) == stopWhen then tested.withStatus status
      else
        let after := execute fuel body tested
        match after.control with
        | .next => runLoop fuel stopWhen condition body after.status after
        | .leaveLoops (n + 2) => { after with control := .leaveLoops (n + 1) }
        | .leaveLoops _ => { after with control := .next }
        | .repeatLoop (n + 2) => { after with control := .repeatLoop (n + 1) }
        | .repeatLoop _ =>
          runLoop fuel stopWhen condition body after.status { after with control := .next }
        | _ => after
    | .leaveLoops (n + 2) => { tested with control := .leaveLoops (n + 1) }
    | .leaveLoops _ => { tested with control := .next }
    | _ => tested

def runEach : Nat → String → List String → Command → State → State
  | 0, _, _, _, state => abandon state
  | _, _, [], _, state => state
  | fuel + 1, name, text :: rest, body, state =>
    let begun := assignVariable state name text
    if begun.control = .exit then begun
    else
      let after := execute fuel body begun
      match after.control with
      | .next => runEach fuel name rest body after
      | .leaveLoops (n + 2) => { after with control := .leaveLoops (n + 1) }
      | .leaveLoops _ => { after with control := .next }
      | .repeatLoop (n + 2) => { after with control := .repeatLoop (n + 1) }
      | .repeatLoop _ => runEach fuel name rest body { after with control := .next }
      | _ => after

/-- Runs the first arm that has a pattern for a text. -/
def runArms : Nat → String → List (List Word × Command) → State → State
  | 0, _, _, state => abandon state
  | _, _, [], state => state.withStatus 0
  | fuel + 1, text, (patterns, body) :: rest, state =>
    let (found, state) := matchesAny fuel text patterns state
    if found then
      match body with
      | .sequence [] => state.withStatus 0
      | body => execute fuel body state
    else if state.control = .exit then state
    else runArms fuel text rest state

def matchesAny : Nat → String → List Word → State → Bool × State
  | 0, _, _, state => (false, abandon state)
  | _, _, [], state => (false, state)
  | fuel + 1, text, pattern :: rest, state =>
    let (glyphs, state) := expandText fuel pattern state
    if state.control = .exit then (false, state)
    else if matches? glyphs text then (true, state)
    else matchesAny fuel text rest state

/-- Runs the command of a name: a function, a command of the interpreter, or a program. -/
def runNamed : Nat → String → List String → State → State
  | 0, _, _, state => abandon state
  | fuel + 1, name, args, state =>
    let function := if specialNames.contains name then none else state.functions.lookup name
    match function with
    | some body =>
      let after := settle (execute fuel body
        { state with args, hidden := [] :: state.hidden, loops := 0 })
      let own := after.hidden.headD []
      let after := own.foldl (fun after (name, value) => after.restore name value) after
      { after with args := state.args, hidden := state.hidden, loops := state.loops }
    | none =>
      match name, args with
      | "eval", args => runText fuel (" ".intercalate args).toList state
      | ".", file :: _ =>
        match state.findScript? file with
        | none => state.abort (".: " ++ file ++ ": not found")
        | some path =>
          match state.run.read path with
          | .ok bytes => settle (runText fuel (Raw.decode bytes).toList state)
          | .error e => state.abort (".: " ++ openFault path e)
      | ".", [] => state.withStatus 0
      | "exec", [] => state.withStatus 0
      | "exec", args =>
        { runProgram fuel "exec: " args { state with traps := [] } with
          control := .exit, traps := [] }
      | "command", args => runPlain fuel args state
      | "type", names =>
        let texts := names.map fun n =>
          match state.describe n with
          | some (kind, _) => n ++ " is " ++ kind ++ "\n"
          | none => n ++ ": not found\n"
        { state with
          run := state.run.put (String.join texts)
          status := if names.all fun n => (state.describe n).isSome then 0 else 127 }
      | "trap", args => runTrap fuel args state
      | "kill", args => runSignal fuel args state
      | name, args =>
        match builtin? name args with
        | some run => run state
        | none => runProgram fuel "" (name :: args) state

/-- Runs a command that is no function, or tells what a name stands for. -/
def runPlain : Nat → List String → State → State
  | 0, _, state => abandon state
  | fuel + 1, args, state =>
    match args with
    | [] => state.withStatus 0
    | "-p" :: args | "--" :: args => runPlain fuel args state
    | "-v" :: name :: _ =>
      match state.describe name with
      | some (_, text) => { state with run := state.run.put (text ++ "\n"), status := 0 }
      | none => state.withStatus 127
    | "-V" :: name :: _ => runNamed fuel "type" [name] state
    | inner :: args =>
      { runNamed fuel inner args { state with functions := [] } with functions := state.functions }

/-- Sets what is done at signals. -/
def runTrap : Nat → List String → State → State
  | 0, _, state => abandon state
  | fuel + 1, args, state =>
    let args := if args.head? = some "--" then args.tail else args
    let (action, names) := match args with
      | [] => ("-", [])
      | first :: rest =>
        if rest.isEmpty || (signalNumber? first).isSome then ("-", first :: rest) else (first, rest)
    if args.isEmpty then
      let line (trap : Nat × String) : String :=
        let name := ((signals.find? (·.2 == trap.1)).map (·.1)).getD (toString trap.1)
        "trap -- " ++ quotedValue trap.2 ++ " " ++ name ++ "\n"
      let traps := state.traps.mergeSort fun a b => decide (a.1 ≤ b.1)
      { state with run := state.run.put (String.join (traps.map line)), status := 0 }
    else
      match names.find? fun n => (signalNumber? n).isNone with
      | some bad => state.complain 1 ("trap: " ++ bad ++ ": bad trap")
      | none =>
        let numbers := names.filterMap signalNumber?
        let others := state.traps.filter fun t => !numbers.contains t.1
        let state := { state with
          traps := if action = "-" then others else numbers.map (·, action) ++ others
          status := 0 }
        let answer : Answer :=
          if action = "-" then .obey
          else if action = "" then .ignore
          else .act fun files =>
            let after := finish fuel (runText fuel action.toList
              { state with
                run := { state.run with files, done := [], pending := [] }
                before := some state.status })
            (after.run.done.reverse.map (·.effect), after.control == .exit)
        if numbers.contains 15 then
          { state with
            run := { state.run with answers := (state.run.elapsed, answer) :: state.run.answers } }
        else state

/-- Sends a signal to the script itself or to a command that it runs in the background. -/
def runSignal : Nat → List String → State → State
  | 0, _, state => abandon state
  | fuel + 1, args, state =>
    let (signal, pids) := match args with
      | "-s" :: name :: rest => ((signalNumber? name).getD 15, rest)
      | "--" :: rest => (15, rest)
      | arg :: rest =>
        if arg.startsWith "-" then
          ((signalNumber? (String.ofList (arg.toList.drop 1))).getD 15, rest)
        else (15, arg :: rest)
      | [] => (15, [])
    pids.foldl (fun state pid =>
      if state.control ≠ .next then state
      else if pid = toString state.run.pid then
        match state.traps.lookup signal with
        | some action =>
          if action = "" || signal = 0 then state
          else
            let after := runText fuel action.toList { state with before := some state.status }
            if after.control = .exit then after
            else { after with status := 0, before := state.before }
        | none =>
          if signal = 0 || harmlessSignals.contains signal then state
          else
            { state with
              run := { state.run with killedBy := some signal }
              status := 128 + signal
              control := .exit
              traps := [] }
      else
        match state.jobs.find? fun job => toString job.pid = pid || "%" ++ toString job.pid = pid with
        | some job =>
          -- What runs in the background does not heed the keyboard.
          let ignored := [0, 2, 3].contains signal || harmlessSignals.contains signal
          if ignored || job.ends ≤ state.run.elapsed then state else state.endJob job signal
        | none => state.complain 1 "kill: No such process") (state.withStatus 0)

/-- Runs a program, and waits until it has ended. A complaint about it begins with `label`. -/
def runProgram : Nat → String → List String → State → State
  | 0, _, _, state => abandon state
  | fuel + 1, label, words, state =>
    let name := words.headD ""
    let say (code : Nat) (text : String) : State :=
      state.complain code (label ++ name ++ ": " ++ text)
    if name = "" then say 127 "Permission denied"
    else
      match findProgram state.run.files state.run.cwd state.environment (some "sh") words with
      | .error e =>
        if e = .noEntry || e = .notDirectory then say 127 "not found"
        else say (if e = .nameTooLong || e = .linkLoop then 127 else 126) e.text
      | .ok found =>
        let pid := state.run.nextPid
        let (status, run) := program fuel found.program found.words
          { state.run with
            env := state.environment
            pid
            nextPid := pid + 1
            name := processName found.path }
        match run.killedBy with
        | some signal =>
          let message := signalText signal
          let run := if message = "" then run else run.complain message
          { state with run := state.run.rejoin run, status := 128 + signal }
        | none => { state with run := state.run.rejoin run, status }

/-- Runs what a script has left for its end. -/
def finish : Nat → State → State
  | 0, state => abandon state
  | fuel + 1, state =>
    match state.traps.lookup 0 with
    | none | some "" => state
    | some text =>
      let after := runText fuel text.toList { state with
        traps := state.traps.filter (·.1 != 0)
        before := some state.status
        control := .next }
      if after.control = .exit then after
      else { after with status := state.status, control := state.control }

/-- Runs the interpreter: a script among its words, in a file, or in its input. -/
def runInterpreter : Nat → List String → Run → Nat × Run
  | 0, _, run => (2, run)
  | fuel + 1, words, run =>
    let own := words.headD "sh"
    let (options, args) := interpreterOptions words.tail
    let close (state : State) (script : List Char) : Nat × Run :=
      let after := finish fuel (runText fuel script { state with options := options.erase 'c' })
      (after.status, after.run)
    if options.contains 'c' then
      match args with
      | script :: rest => close (State.start run (rest.headD own) rest.tail) script.toList
      | [] => (2, run.complain (own ++ ": 0: -c requires an argument"))
    else
      match args with
      | file :: rest =>
        if options.contains 's' then
          let (flow, run) := run.takeInput
          close (State.start run own args) (Raw.decode flow.bytes).toList
        else
          match run.read file with
          | .ok bytes => close (State.start run file rest) (Raw.decode bytes).toList
          | .error e => (2, run.complain (own ++ ": 0: " ++ openFault file e))
      | [] =>
        let (flow, run) := run.takeInput
        close (State.start run own []) (Raw.decode flow.bytes).toList

def program : Nat → String → List String → Run → Nat × Run
  | 0, _, _, run => (2, run)
  | fuel + 1, name, words, run =>
    let args := words.tail
    if interpreters.contains name then runInterpreter fuel words run
    else
      match runners.lookup name with
      | some runner => runner (fun tool words run => runFor fuel tool words run) args run
      | none =>
        match tools.lookup name with
        | some tool => tool args run
        | none => (127, run)

/-- Runs a program in the place of another one. -/
def runFor : Nat → String → List String → Run → Nat × Run
  | 0, _, _, run => (2, run)
  | fuel + 1, tool, words, run =>
    match words with
    | [] =>
      (125, run.complain (tool ++ ": missing operand\nTry '" ++ tool
        ++ " --help' for more information."))
    | name :: _ =>
      match findProgram run.files run.cwd run.env (some "sh") words with
      | .ok found =>
        program fuel found.program found.words { run with name := processName found.path }
      | .error e =>
        let quoted := if tool = "xargs" then name
          else if tool = "timeout" || tool = "nohup" || tool = "stdbuf" || tool = "setsid" then
            "failed to run command " ++ quoteName name
          else quoteName name
        (if e = .noEntry || e = .notDirectory then 127 else 126,
          run.complain (tool ++ ": " ++ quoted ++ ": " ++ e.text))

end

end LineShell.Machine.Script
