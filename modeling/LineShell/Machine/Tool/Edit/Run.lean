import LineShell.Machine.Tool.Dump
import LineShell.Machine.Tool.Edit.Command

/-!
# Running scripts of the stream editor

A line is read, the commands are executed one after the other, the line is shown, and so on until
there are no more lines.
-/
namespace LineShell.Machine.Edit

structure InputLine where
  text : Bytes
  /-- Whether it is ended. -/
  ended : Bool
  file : String

/-- What is shown after the current line. -/
inductive Appendix where
  | text (bytes : Bytes)
  | file (name : String)

/-- How a range of lines stands. -/
inductive RangeState where
  | active
  /-- It goes on up to a line. -/
  | upTo (line : Nat)
  /-- It has ended and does not begin again. -/
  | closed
  deriving DecidableEq

/-- How a script is run. -/
structure Settings where
  /-- Whether lines are shown only when commands tell so. -/
  quiet : Bool
  /-- The byte that ends lines. -/
  ending : UInt8
  /-- How long visible lines may be, or zero. -/
  width : Nat
  files : String → Except IoError Bytes

/-- The state of the editor. -/
structure State where
  input : List InputLine
  space : Bytes
  ended : Bool
  held : Bytes
  heldEnded : Bool
  number : Nat
  file : String
  appendices : List Appendix
  substituted : Bool
  /-- The ranges that have begun, by the places of their commands. -/
  ranges : List (Nat × RangeState)
  lastRegex : Option Regex
  /-- What was shown, the last first. -/
  shown : List Bytes
  /-- Whether the last line that was shown was not ended. -/
  dangling : Bool
  /-- The same for lines that were written to the standard output by its name. -/
  copyDangling : Bool
  /-- What was written to files, by their names. -/
  written : List (String × Bytes)
  /-- What is left of files that are read line by line. -/
  readers : List (String × List Bytes)
  /-- Whether the next cycle goes on with what is left of the line. -/
  kept : Bool
  /-- Whether the expression that was used last was meant while there was none. -/
  lost : Bool
  /-- The exit code of a command that ended everything. -/
  code : Option Nat

namespace State

def put (state : State) (settings : Settings) (bytes : Bytes) : State :=
  let before : Bytes := if state.dangling then [settings.ending] else []
  { state with shown := (before ++ bytes) :: state.shown, dangling := false }

/-- Shows a line; one that is not ended is shown so. -/
def putLine (state : State) (settings : Settings) (text : Bytes) (ended : Bool) : State :=
  if ended then state.put settings (text ++ [settings.ending])
  else { state.put settings text with dangling := true }

/-- Writes to a file, or shows what is written to the standard output. -/
def write (state : State) (settings : Settings) (name : String) (text : Bytes) (ended : Bool) :
    State :=
  if name = "/dev/stdout" then
    let before : Bytes := if state.copyDangling then [settings.ending] else []
    let after : Bytes := if ended then [settings.ending] else []
    { state with shown := (before ++ text ++ after) :: state.shown, copyDangling := !ended }
  else
    let old := (state.written.lookup name).getD []
    let new := old ++ text ++ if ended then [settings.ending] else []
    { state with written := (name, new) :: state.written.filter (·.1 != name) }

/-- Shows what was to be shown after the line. -/
def flush (state : State) (settings : Settings) : State :=
  let shown := state.appendices.foldl (fun (state : State) appendix =>
    match appendix with
    | .text bytes => state.put settings bytes
    | .file name =>
      match settings.files name with
      | .ok bytes => state.put settings bytes
      | .error _ => state.put settings []) state
  { shown with appendices := [] }

/-- Takes the next line, if there is one. -/
def read? (state : State) : Option (InputLine × State) :=
  match state.input with
  | [] => none
  | line :: input =>
    some (line, { state with input, number := state.number + 1, file := line.file })

def atLast (state : State) : Bool :=
  state.input.isEmpty

/-- The expression that is meant, and the state that remembers it, or that it was lost. -/
def regex (state : State) (given : Option Regex) : Option Regex × State :=
  match given with
  | some regex => (some regex, { state with lastRegex := some regex })
  | none => (state.lastRegex, { state with lost := state.lost || state.lastRegex.isNone })

/-- Whether the line is one that an address means. -/
def isAt (state : State) : Address → Bool × State
  | .line n => (state.number == n, state)
  | .last => (state.atLast, state)
  | .every first step =>
    let after := first ≤ state.number
    (if step = 0 then state.number == first else after && (state.number - first) % step == 0, state)
  | .pattern given =>
    match state.regex given with
    | (some regex, state) => (regex.pattern.occursIn regex.fold state.space.toArray, state)
    | (none, state) => (false, state)

/-- The state in which the range of a command stands otherwise. -/
def setRange (state : State) (place : Nat) (range : Option RangeState) : State :=
  let others := state.ranges.filter (·.1 != place)
  { state with ranges := (range.map (place, ·)).toList ++ others }

/-- Whether the line lies in a range, whose first line it may be. A range that begins at a line given
by its number begins at a later one if that was not met, and only once. -/
def inRange (state : State) (place : Nat) (first : Address) (last : RangeEnd) : Bool × State :=
  let after : Option RangeState := match first with
    | .line _ => some .closed
    | _ => none
  match state.ranges.lookup place with
  | some .closed => (false, state)
  | some (.upTo line) =>
    (true, if state.number < line then state else state.setRange place after)
  | some .active =>
    match last with
    | .address (.line n) =>
      if state.number < n then (true, state)
      else
        let inside := state.number == n
        (inside, state.setRange place after)
    | .address address =>
      let (closes, state) := state.isAt address
      (true, if closes then state.setRange place after else state)
    | _ => (true, state.setRange place after)
  | none =>
    let begins := match first with
      | .line n => (n ≤ state.number, state)
      | first => state.isAt first
    match begins with
    | (false, state) => (false, state)
    | (true, state) =>
      match last with
      | .lines n =>
        (true, state.setRange place (if n = 0 then after else some (.upTo (state.number + n))))
      | .multiple n =>
        let next := RangeState.upTo ((state.number / n + 1) * n)
        (true, state.setRange place (if n = 0 then after else some next))
      | .address (.line n) =>
        let isFirst := match first with
          | .line m => m == state.number
          | _ => true
        (isFirst || state.number ≤ n,
          state.setRange place (if n ≤ state.number then after else some .active))
      | .address _ => (true, state.setRange place (some .active))

/-- Whether a command is executed for the line. -/
def passes (state : State) (place : Nat) (guard : Guard) : Bool × State :=
  let (inside, state) := match guard.first, guard.last with
    | none, _ => (true, state)
    | some first, none => state.isAt first
    | some first, some last => state.inRange place first last
  (inside != guard.negated, state)

end State

/-- A byte with its case changed. Bytes that are no letters of the portable kind are lost. -/
def CaseChange.apply (change : CaseChange) (b : UInt8) : UInt8 :=
  match change with
  | .none => b
  | .lower | .lowerNext => if b < 128 then lowerByte b else 255
  | .upper | .upperNext => if b < 128 then upperByte b else 255

/-- Bytes with their case changed: the first one by a change that counts once. -/
def changeCase (always once : CaseChange) : Bytes → Bytes
  | [] => []
  | b :: rest =>
    (if once = .none then always else once).apply b :: rest.map always.apply

/-- The replacement for a match, where `always` and `once` tell how case is changed. -/
def replacementFor (line : Array UInt8) (found : Match) :
    CaseChange → CaseChange → List ReplacementPart → Bytes
  | _, _, [] => []
  | always, _, .case change :: rest =>
    match change with
    | .lowerNext | .upperNext => replacementFor line found always change rest
    | _ => replacementFor line found change .none rest
  | always, once, part :: rest =>
    let bytes := match part with
      | .group n => found.group line n
      | .text bytes => bytes
      | .case _ => []
    changeCase always once bytes
      ++ replacementFor line found always (if bytes.isEmpty then once else .none) rest

/-- A line with matches replaced, and whether any were. `count` matches were found before the place
`i`, the last of them up to there unless there were none. -/
def replaceFrom (s : Substitution) (regex : Regex) (line : Array UInt8) :
    Nat → Nat → Option Nat → Nat → Bytes × Bool
  | 0, _, _, i => ((line.extract i line.size).toList, false)
  | fuel + 1, count, before, i =>
    match regex.pattern.find? regex.fold line (fun _ _ => true) i with
    | none => ((line.extract i line.size).toList, false)
    | some found =>
      let text := (line.extract i found.first).toList
      let vacuous := found.last == found.first
      if vacuous && before = some found.first then
        -- Nothing is found right after a match.
        if found.first < line.size then
          let (rest, any) := replaceFrom s regex line fuel count none (found.first + 1)
          (text ++ line.getD found.first 0 :: rest, any)
        else (text, false)
      else
        let chosen := s.occurrence ≤ count + 1
        let new :=
          if chosen then replacementFor line found .none .none s.replacement
          else found.group line 0
        if chosen && !s.global then
          (text ++ new ++ (line.extract found.last line.size).toList, true)
        else
          let skipped : Bytes :=
            if vacuous && found.last < line.size then [line.getD found.last 0] else []
          if vacuous && line.size ≤ found.last then (text ++ new, chosen)
          else
            let place := found.last + skipped.length
            let (rest, any) := replaceFrom s regex line fuel (count + 1)
              (if vacuous then none else some found.last) place
            (text ++ new ++ skipped ++ rest, chosen || any)

/-- A byte as it is shown where all bytes are to be seen. -/
def visible (b : UInt8) : Bytes :=
  if b = 92 then [92, 92]
  else if b = 10 then [92, 110]
  else if 32 ≤ b && b < 127 then [b]
  else
    let letters : List (UInt8 × UInt8) := [(7, 97), (8, 98), (9, 116), (11, 118), (12, 102), (13, 114)]
    match letters.lookup b with
    | some letter => [92, letter]
    | none => 92 :: Raw.encode (radixDigits 8 3 b.toNat)

/-- Visible bytes in lines of a width at most. -/
def wrapVisible (ending : UInt8) (width : Nat) : Nat → List Bytes → Bytes
  | _, [] => []
  | used, unit :: rest =>
    if 0 < width && width - 1 < used + unit.length then
      [92, ending] ++ unit ++ wrapVisible ending width unit.length rest
    else unit ++ wrapVisible ending width (used + unit.length) rest

/-- How a command ends. -/
inductive Step where
  | next
  | jump (place : Nat)
  /-- The cycle ends, with the line shown unless it was deleted. -/
  | cycle (deleted : Bool)

def execute (settings : Settings) (script : Script) (place : Nat) (action : Action)
    (state : State) : Step × State :=
  let next (state : State) : Step × State := (.next, state)
  let endedBy (text : Bytes) : Bytes :=
    if text.isEmpty then [] else text.dropLast ++ [settings.ending]
  match action with
  | .block | .blockEnd | .label _ | .nothing => next state
  | .jump condition label =>
    let target := Step.jump ((script.placeOf? label).getD script.size)
    match condition with
    | .always => (target, state)
    | .substituted =>
      (if state.substituted then target else .next, { state with substituted := false })
    | .notSubstituted =>
      (if state.substituted then .next else target, { state with substituted := false })
  | .append text => next { state with appendices := state.appendices ++ [.text text] }
  | .insert text => next (state.put settings (endedBy text))
  | .change text =>
    let inside := (state.ranges.lookup place).any (· != .closed)
    (.cycle true, if inside then state else state.put settings (endedBy text))
  | .delete => (.cycle true, state)
  | .deleteFirst =>
    if state.space.contains settings.ending then
      let rest := (state.space.dropWhile (· != settings.ending)).drop 1
      (.cycle true, { state with space := rest, kept := true })
    else (.cycle true, state)
  | .print => next (state.putLine settings state.space state.ended)
  | .printFirst =>
    let line := state.space.takeWhile (· != settings.ending)
    next (state.putLine settings line (state.ended || line.length < state.space.length))
  | .printVisible width =>
    let units := state.space.map visible
    let width := width.getD settings.width
    next (state.put settings (wrapVisible settings.ending width 0 units ++ [36, settings.ending]))
  | .printNumber => next (state.put settings (Raw.encode (toString state.number) ++ [settings.ending]))
  | .printName => next (state.put settings (Raw.encode state.file ++ [settings.ending]))
  | .next =>
    if state.atLast then (.cycle false, state)
    else
      let state := if settings.quiet then state else state.putLine settings state.space state.ended
      match (state.flush settings).read? with
      | some (line, state) => next { state with space := line.text, ended := line.ended }
      | none => (.cycle false, state)
  | .appendNext =>
    match (if state.atLast then state else state.flush settings).read? with
    | some (line, state) =>
      next { state with space := state.space ++ [settings.ending] ++ line.text, ended := line.ended }
    | none => (.cycle false, state)
  | .hold => next { state with held := state.space, heldEnded := state.ended }
  | .holdAppend =>
    next { state with held := state.held ++ [settings.ending] ++ state.space, heldEnded := state.ended }
  | .get => next { state with space := state.held, ended := state.heldEnded }
  | .getAppend =>
    next { state with space := state.space ++ [settings.ending] ++ state.held, ended := state.heldEnded }
  | .exchange =>
    next { state with
      space := state.held
      ended := state.heldEnded
      held := state.space
      heldEnded := state.ended }
  | .quit code silent => (.cycle silent, { state with code := some code, ended := true })
  | .insertFile name =>
    let bytes := match settings.files name with
      | .ok bytes => bytes
      | .error _ => []
    next { state with shown := bytes :: state.shown }
  | .readFile name => next { state with appendices := state.appendices ++ [.file name] }
  | .readLine name =>
    let lines := (state.readers.lookup name).getD
      (match settings.files name with | .ok bytes => piecesBy settings.ending bytes | .error _ => [])
    let readers := (name, lines.tail) :: state.readers.filter (·.1 != name)
    let added := lines.head?.toList.map fun line => Appendix.text (line ++ [settings.ending])
    next { state with readers, appendices := state.appendices ++ added }
  | .writeFile name => next (state.write settings name state.space state.ended)
  | .writeFirst name =>
    next (state.write settings name (state.space.takeWhile (· != settings.ending)) true)
  | .substitute s =>
    match state.regex s.regex with
    | (none, state) => next state
    | (some regex, state) =>
      let line := state.space.toArray
      let (space, any) := replaceFrom s regex line (2 * line.size + 2) 0 none 0
      if !any then next state
      else
        let state := { state with space, substituted := true }
        let state := if s.print then state.putLine settings space state.ended else state
        match s.target with
        | some name => next (state.write settings name space state.ended)
        | none => next state
  | .replaceBytes table =>
    next { state with space := state.space.map fun b => (table.lookup b).getD b }
  | .clear => next { state with space := [] }

/-- Ends a cycle: shows the line unless it was deleted, and what was to be shown after it. -/
def endCycle (settings : Settings) (deleted : Bool) (state : State) : State :=
  let state :=
    if deleted || settings.quiet then state else state.putLine settings state.space state.ended
  state.flush settings

/-- Executes a script from a place on, for at most a number of steps. -/
def runFrom (settings : Settings) (script : Script) : Nat → Nat → State → State
  | 0, _, state => state
  | fuel + 1, place, state =>
    if state.lost then state else
    let endWith (deleted : Bool) (state : State) : State :=
      let state := endCycle settings deleted state
      if state.code.isSome then state
      else if state.kept then runFrom settings script fuel 0 { state with kept := false }
      else
        match state.read? with
        | none => state
        | some (line, state) =>
          runFrom settings script fuel 0
            { state with space := line.text, ended := line.ended, substituted := false }
    match script[place]? with
    | none => endWith false state
    | some command =>
      match state.passes place command.guard with
      | (false, state) =>
        let next := match command.action with
          | .block => afterBlock (place + 1) 0 (script.toList.drop (place + 1))
          | _ => place + 1
        runFrom settings script fuel next state
      | (true, state) =>
        match execute settings script place command.action state with
        | (.next, state) => runFrom settings script fuel (place + 1) state
        | (.jump target, state) => runFrom settings script fuel target state
        | (.cycle deleted, state) => endWith deleted state

/-- How many commands are executed at most. -/
def stepLimit : Nat := 4000000

/-- The ranges that have begun before the first line. -/
def openRanges (script : Script) : List (Nat × RangeState) :=
  (script.toList.zipIdx.filter fun (command, _) => command.guard.fromStart).map
    fun (_, place) => (place, .active)

/-- The state before the first line. -/
def State.start (script : Script) : State where
  input := []
  space := []
  ended := true
  held := []
  heldEnded := true
  number := 0
  file := "-"
  appendices := []
  substituted := false
  ranges := openRanges script
  lastRegex := none
  shown := []
  dangling := false
  copyDangling := false
  written := []
  readers := []
  kept := false
  lost := false
  code := none

def runOn (settings : Settings) (script : Script) (lines : List InputLine) (state : State) :
    State :=
  match { state with input := lines }.read? with
  | none => state
  | some (line, state) =>
    runFrom settings script stepLimit 0 { state with space := line.text, ended := line.ended }

def inputLines (ending : UInt8) (file : String) (bytes : Bytes) : List InputLine :=
  let lines := piecesBy ending bytes
  let closed := bytes.getLast? == some ending
  lines.zipIdx.map fun (text, i) => ⟨text, closed || i + 1 < lines.length, file⟩

/-- The files that a script writes to. -/
def targetsOf (script : Script) : List String :=
  script.toList.filterMap fun command =>
    match command.action with
    | .writeFile name | .writeFirst name => some name
    | .substitute s => s.target
    | _ => none

end Edit

/-- The options of the stream editor. -/
def sedTable : OptionTable where
  flags := "nErsuzi"
  valued := "efl="
  long := [("quiet", 'n'), ("silent", 'n'), ("regexp-extended", 'E'), ("separate", 's'),
    ("unbuffered", 'u'), ("null-data", 'z'), ("zero-terminated", 'z'), ("in-place", 'i'),
    ("suffix", '='), ("expression", 'e'), ("file", 'f'), ("line-length", 'l'), ("posix", 'u'),
    ("debug", 'u'), ("sandbox", 'u')]

/-- The words of a command line with the ending of copies made an option of its own. -/
def withSuffixOption (args : List String) : List String :=
  args.map fun word =>
    if word.startsWith "-i" && word.length > 2 then "--suffix=" ++ String.ofList (word.toList.drop 2)
    else if word.startsWith "--in-place=" then
      "--suffix=" ++ String.ofList (word.toList.drop "--in-place=".length)
    else word

/-- The pieces of the script that options or the first operand give, and the operands that are
left. -/
def sedScript (parsed : Parsed) (run : Run) :
    Except (Nat × String) (Option (List Edit.Piece × List String)) :=
  match parsed.options.filter fun o => o.1 == 'e' || o.1 == 'f', parsed.operands with
  | [], [] => .ok none
  | [], first :: rest => .ok (some ([.expression first], rest))
  | given, operands => do
    let pieces ← given.mapM fun (letter, value) =>
      if letter = 'e' then .ok (.expression value)
      else if value = "-" then .ok (.file value (Raw.decode run.input.known))
      else
        match run.read value with
        | .ok bytes =>
          .ok (.file value (Raw.decode bytes))
        | .error e =>
          if run.files.isDir (run.resolve value) then .ok (.file value "")
          else .error (4, "sed: couldn't open file " ++ value ++ ": " ++ plainMessage e)
    return some (pieces, operands)

/-- How the stream editor complains of a file that it cannot read. -/
def cannotEdit (name : String) (e : IoError) : String :=
  if e = .os .isDirectory then "sed: read error on " ++ name ++ ": Is a directory"
  else "sed: can't read " ++ name ++ ": " ++ plainMessage e

/-- Edits each file on its own, in its place if that is asked for. -/
def editSeparately (settings : Edit.Settings) (script : Edit.Script) (inPlace : Bool)
    (suffix : String) : List (String × Flow) → Edit.State → Run → Edit.State × Run
  | [], state, run => (state, run)
  | (name, flow) :: rest, state, run =>
    if state.code.isSome || state.lost then (state, run)
    else
      let lines := Edit.inputLines settings.ending name flow.known
      let state := Edit.runOn settings script lines
        { state with number := 0, ranges := Edit.openRanges script }
      if state.lost then (state, run)
      else if inPlace then
        let new := state.shown.reverse.flatten
        let path := run.resolve name
        let backup := if suffix.contains '*' then
            (Path.fileName? (Raw.encode name)).elim suffix fun base =>
              (Raw.decode base).intercalate (suffix.splitOn "*")
          else name ++ suffix
        let run := if suffix = "" then run
          else (run.attempt fun fs => fs.update (run.resolve backup) fun _ => flow.bytes).2
        let run := (run.attempt fun fs => fs.update path fun _ => new).2
        editSeparately settings script inPlace suffix rest
          { state with shown := [], dangling := false } run
      else editSeparately settings script inPlace suffix rest state run

/-- Edits lines by a script. -/
def sedTool : Tool := fun args run =>
  withOptions "sed" 1 sedTable (fun parsed run =>
    match sedScript parsed run with
    | .error (code, complaint) => (code, run.complain complaint)
    | .ok none =>
      (1, run.complain "Usage: sed [OPTION]... \x7bscript-only-if-no-other-script\x7d [input-file]...")
    | .ok (some (pieces, operands)) =>
      match Edit.Script.ofPieces ⟨parsed.hasAny "Er", !parsed.has 'z'⟩ pieces with
      | .error (code, complaint) => (code, run.complain complaint)
      | .ok script =>
        let ending : UInt8 := if parsed.has 'z' then 0 else 10
        let settings : Edit.Settings :=
          { quiet := parsed.has 'n' || pieces.head?.any (·.text.startsWith "#n")
            ending
            width := (parsed.number? 'l').getD 70
            files := run.read }
        -- Files that are written to are empty at first.
        let (refused, run) := (Edit.targetsOf script).foldl (fun (refused, run) name =>
          if name.startsWith "/dev/std" || refused.isSome then (refused, run)
          else
            match run.attempt fun fs => fs.update (run.resolve name) fun _ => [] with
            | (.ok (), run) => (none, run)
            | (.error e, run) =>
              (some ("sed: couldn't open file " ++ name ++ ": " ++ plainMessage e), run))
          ((none : Option String), run)
        if let some complaint := refused then (4, run.complain complaint) else
        let isDir (name : String) : Bool := run.files.isDir (run.resolve name)
        -- A directory ends the editor.
        let places := operandsOrInput operands
        let firstDir := places.findIdx? isDir
        let places := firstDir.elim places fun i => places.take (i + 1)
        let (flows, ok, run) := readOperands cannotEdit places run
        let inPlace := parsed.hasAny "i="
        let (state, run) :=
          if inPlace || parsed.has 's' then
            editSeparately settings script inPlace ((parsed.value? '=').getD "") flows
              (Edit.State.start script) run
          else
            let lines := flows.flatMap fun (name, flow) =>
              Edit.inputLines ending name flow.known
            (Edit.runOn settings script lines (Edit.State.start script), run)
        let run := if state.lost then
            run.complain ("sed: " ++ Edit.endText pieces ++ ": no previous regular expression")
          else run
        let run := run.write state.shown.reverse.flatten
        let run := state.written.reverse.foldl (fun (run : Run) (name, bytes) =>
          if name = "/dev/stderr" then run.writeTo run.errors bytes
          else (run.attempt fun fs => fs.update (run.resolve name) fun _ => bytes).2) run
        (if state.lost then 1 else state.code.getD (if firstDir.isSome then 4 else if ok then 0 else 2), run))
    (withSuffixOption args) run

end LineShell.Machine
