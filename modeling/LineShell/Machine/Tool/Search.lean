import LineShell.FileSystem.Listing
import LineShell.Machine.Tool.Extent
import LineShell.Machine.Tool.Match

/-!
# Searching for lines

Lines are selected that match one of several expressions, or none of them, and shown with lines
around them.
-/
namespace LineShell.Machine

structure SearchLine where
  number : Nat
  /-- The number of bytes before it. -/
  offset : Nat
  text : Bytes
  selected : Bool

/-- What is shown of a file. -/
inductive SearchItem where
  | separator
  | line (line : SearchLine)

/-- How many lines are shown around those that are selected, and how many are selected at most. -/
structure SearchContext where
  before : Option Nat
  after : Option Nat
  limit : Option Nat

def searchLines (selects : Bytes → Bool) : Nat → Nat → List Bytes → List SearchLine
  | _, _, [] => []
  | number, offset, text :: rest =>
    ⟨number, offset, text, selects text⟩ ::
      searchLines selects (number + 1) (offset + text.length + 1) rest

/-- What has been shown of a file: whether anything was shown at all, the number of the last line,
how many more lines come after a selected one, and the lines before the next one, in reverse. -/
structure SearchProgress where
  shown : Bool
  last : Option Nat
  after : Nat
  before : List SearchLine

/-- The lines that are selected, with those around them; `left` more of them are selected. -/
def SearchContext.items (context : SearchContext) :
    Option Nat → SearchProgress → List SearchLine → List SearchItem
  | _, _, [] => []
  | left, progress, line :: rest =>
    if line.selected && left != some 0 then
      let around := progress.before.reverse
      let first := (around.head?.getD line).number
      let apart := (context.before.isSome || context.after.isSome) && progress.shown
        && progress.last != some (first - 1)
      let next : SearchProgress := ⟨true, some line.number, context.after.getD 0, []⟩
      (if apart then [.separator] else []) ++ around.map .line ++ [.line line]
        ++ context.items (left.map (· - 1)) next rest
    else if 0 < progress.after then
      .line { line with selected := false } ::
        context.items left { progress with last := some line.number, after := progress.after - 1 }
          rest
    else if left = some 0 then []
    else
      context.items left
        { progress with before := (line :: progress.before).take (context.before.getD 0) } rest

def grepTable : OptionTable where
  flags := "0123456789EFGPcIiLlnHhoqsvwxyzZaUbrRTu"
  valued := "efmABCdD="
  optional := "~"
  long := [("extended-regexp", 'E'), ("fixed-strings", 'F'), ("basic-regexp", 'G'),
    ("perl-regexp", 'P'), ("count", 'c'), ("ignore-case", 'i'), ("files-without-match", 'L'),
    ("files-with-matches", 'l'), ("line-number", 'n'), ("with-filename", 'H'),
    ("no-filename", 'h'), ("only-matching", 'o'), ("quiet", 'q'), ("silent", 'q'),
    ("no-messages", 's'), ("invert-match", 'v'), ("word-regexp", 'w'), ("line-regexp", 'x'),
    ("null-data", 'z'), ("null", 'Z'), ("text", 'a'), ("byte-offset", 'b'), ("recursive", 'r'),
    ("dereference-recursive", 'R'), ("regexp", 'e'), ("file", 'f'), ("max-count", 'm'),
    ("after-context", 'A'), ("before-context", 'B'), ("context", 'C'), ("label", '='),
    ("line-buffered", 'u'), ("initial-tab", 'T'), ("binary", 'U'), ("no-ignore-case", '!'),
    ("color", '~'), ("colour", '~'), ("include", 'd'), ("exclude", 'd'), ("exclude-dir", 'd'),
    ("directories", 'd'), ("devices", 'D')]

/-- What a search looks for. -/
structure SearchTarget where
  pattern : Pattern
  fold : Bool
  wholeWords : Bool
  wholeLines : Bool

/-- Whether a match counts. -/
def SearchTarget.accepts (target : SearchTarget) (line : Array UInt8) (first last : Nat) : Bool :=
  (!target.wholeLines || (first == 0 && last == line.size))
    && (!target.wholeWords
      || (!(0 < first && isWordByte (line.getD (first - 1) 0))
        && !(last < line.size && isWordByte (line.getD last 0))))

def SearchTarget.occursIn (target : SearchTarget) (text : Bytes) : Bool :=
  let line := text.toArray
  if target.wholeWords || target.wholeLines then
    (target.pattern.find? target.fold line (target.accepts line) 0).isSome
  else target.pattern.occursIn target.fold line

/-- The matches in a line. -/
def SearchTarget.all (target : SearchTarget) (text : Bytes) : List Match :=
  let line := text.toArray
  target.pattern.allMatches target.fold line (target.accepts line) (line.size + 2) 0

/-- What is looked for, given the texts of the expressions. -/
def searchTarget (parsed : Parsed) (texts : List Bytes) : Except PatternError SearchTarget := do
  let fold := parsed.hasAny "iy" && !parsed.has '!'
  let kind := ((parsed.options.map (·.1)).filter fun c => "EFGP".contains c).getLastD 'G'
  let patterns ← texts.mapM fun text =>
    if kind = 'F' then .ok (Pattern.literal fold text)
    else Pattern.parse
        { extended := kind != 'G', fold, lenient := true, strictClasses := true } text
  let pattern := match patterns with
    | [] => .never
    | p :: ps => ps.foldl .either p
  return ⟨pattern, fold, parsed.has 'w', parsed.has 'x'⟩

/-- The repetitions in an extended expression that have nothing to repeat, since they stand where an
expression begins. -/
def misplacedRepeats : Nat → Bool → Bytes → List String
  | 0, _, _ => []
  | _, _, [] => []
  | fuel + 1, start, b :: rest =>
    let told (shown : String) : List String := if start then [shown] else []
    if b = 92 then
      let assertion := (Raw.encode "<>bB\x60'").contains (rest.headD 0)
      misplacedRepeats fuel (start && assertion) (rest.drop 1)
    else if b = 91 then
      let inner := if rest.head? = some 94 then rest.drop 1 else rest
      misplacedRepeats fuel false (((inner.drop 1).dropWhile (· != 93)).drop 1)
    else if b = 94 || b = 36 then misplacedRepeats fuel start rest
    else if b = 42 || b = 43 || b = 63 then
      told (Char.ofNat b.toNat).toString ++ misplacedRepeats fuel start rest
    else if b = 123 then
      let inner := rest.takeWhile (· != 125)
      if inner.any isDigitByte && inner.all fun c => isDigitByte c || c = 44 then
        told "\x7b...\x7d" ++ misplacedRepeats fuel false (rest.drop (inner.length + 1))
      else misplacedRepeats fuel false rest
    else misplacedRepeats fuel (b = 40 || b = 124) rest

/-- The texts of the expressions that are looked for, and the operands that are left. -/
def searchTexts (parsed : Parsed) (run : Run) :
    Except String (Option (List Bytes) × List String) :=
  let given := parsed.options.filter fun o => o.1 == 'e' || o.1 == 'f'
  match given, parsed.operands with
  | [], [] => .ok (none, [])
  | [], first :: rest => .ok (some ((Raw.encode first).splitOn 10), rest)
  | given, operands => do
    let texts ← given.mapM fun (letter, value) =>
      if letter = 'e' then .ok ((Raw.encode value).splitOn 10)
      else if value = "-" then .ok (linesOf run.input.bytes)
      else
        match run.read value with
        | .ok bytes => .ok (linesOf bytes)
        | .error e => .error (complainOf "grep" value e)
    return (some texts.flatten, operands)

/-- How much context is asked for. -/
def searchContext (parsed : Parsed) : Except String SearchContext := do
  let digits := (parsed.options.map (·.1)).filter Char.isDigit
  let count (letter : Char) : Except String (Option Nat) :=
    match parsed.value? letter with
    | none => .ok none
    | some word =>
      match word.toNat? with
      | some n => .ok (some n)
      | none =>
        if letter = 'm' then
          if word.toInt?.isSome then .ok none else .error "grep: invalid max count"
        else .error ("grep: " ++ word ++ ": invalid context length argument")
  let around ← count 'C'
  let around := if digits.isEmpty then around else (String.ofList digits).toNat?
  return ⟨(← count 'B').or around, (← count 'A').or around, ← count 'm'⟩

/-- The files below a directory, with their names. -/
def filesBelow (files : FileSystem) : Nat → String → Path → List String
  | 0, _, _ => []
  | fuel + 1, name, path =>
    match files.resolve path with
    | .ok (_, .dir entries) =>
      (Node.sortEntries entries).flatMap fun (entry, node) =>
        let below := if name = "" then Raw.decode entry else Raw.below name entry
        match node with
        | .link _ => []
        | _ => filesBelow files fuel below (Path.join path entry)
    | .ok _ => [name]
    | .error _ => [name]

/-- The files that operands stand for. -/
def searchOperands (parsed : Parsed) (operands : List String) (run : Run) : List String :=
  if parsed.hasAny "rR" then
    if operands.isEmpty then filesBelow run.files 256 "" run.cwd
    else
      operands.flatMap fun name =>
        if run.files.isDir (run.resolve name) then
          filesBelow run.files 256 name (run.resolve name)
        else [name]
  else operandsOrInput operands

/-- What a search shows. -/
structure SearchView where
  parsed : Parsed
  target : SearchTarget
  context : SearchContext
  /-- Whether lines are shown with the name of their file. -/
  named : Bool

/-- The byte that lines end with. -/
def SearchView.ending (view : SearchView) : UInt8 :=
  if view.parsed.has 'z' then 0 else 10

def SearchView.heading (view : SearchView) (label : String) (mark : String) (line : SearchLine)
    (offset : Nat) : Bytes :=
  let has := view.parsed.has
  let name : Bytes :=
    if !view.named then []
    else if has 'Z' then Raw.encode label ++ [0]
    else Raw.encode (label ++ mark)
  name ++ Raw.encode ((if has 'n' then toString line.number ++ mark else "")
    ++ if has 'b' then toString offset ++ mark else "")

def SearchView.item (view : SearchView) (label : String) : SearchItem → Bytes
  | .separator => Raw.encode "--\n"
  | .line line =>
    let mark := if line.selected then ":" else "-"
    let has := view.parsed.has
    if has 'o' then
      if has 'v' || !line.selected then []
      else
        (view.target.all line.text).flatMap fun found =>
          view.heading label mark line (line.offset + found.first)
            ++ found.group line.text.toArray 0 ++ [view.ending]
    else view.heading label mark line line.offset ++ line.text ++ [view.ending]

/-- What is shown of a file, whether lines were selected, and a complaint. -/
def SearchView.file (view : SearchView) (shown : Bool) (name : String) (bytes : Bytes) :
    Bytes × Bool × Option String :=
  let has := view.parsed.has
  let label := if name = "-" then (view.parsed.value? '=').getD "(standard input)" else name
  let selects (text : Bytes) : Bool := view.target.occursIn text != has 'v'
  let lines := searchLines selects 1 0 (piecesBy view.ending bytes)
  let count := (lines.filter (·.selected)).length
  let count := view.context.limit.elim count (min count)
  let any := 0 < count
  let nameLine := Raw.encode label ++ [if has 'Z' then 0 else 10]
  if has 'q' then ([], any, none)
  else if has 'l' then (if any then nameLine else [], any, none)
  else if has 'L' then (if any then [] else nameLine, any, none)
  else if has 'c' then
    let tag := if !view.named then [] else Raw.encode (label ++ ":")
    (tag ++ Raw.encode (toString count ++ "\n"), any, none)
  else if bytes.contains 0 && !view.parsed.hasAny "az" then
    ([], any, if any then some ("grep: " ++ label ++ ": binary file matches") else none)
  else
    let items := view.context.items view.context.limit ⟨shown, none, 0, []⟩ lines
    (items.flatMap (view.item label), any, none)

/-- What a search has come to: whether lines were selected, whether something was shown, and whether
an operand could not be read. -/
structure SearchState where
  any : Bool
  shown : Bool
  failed : Bool

def grepTool : Tool :=
  withOptions "grep" 2 grepTable fun parsed run =>
    match searchTexts parsed run, searchContext parsed with
    | .error complaint, _ | .ok _, .error complaint => (2, run.complain complaint)
    | .ok (none, _), _ =>
      (2, run.complain (withHelp "grep" "Usage: grep [OPTION]... PATTERNS [FILE]..."))
    | .ok (some texts, operands), .ok context =>
      let extended :=
        ((parsed.options.map (·.1)).filter fun c => "EFGP".contains c).getLastD 'G' = 'E'
      let misplaced :=
        if extended then texts.eraseDups.flatMap fun text =>
          misplacedRepeats text.length true text
        else []
      let run := misplaced.foldl (fun (run : Run) shown =>
        run.complain ("grep: warning: " ++ shown ++ " at start of expression")) run
      match searchTarget parsed texts with
      | .error e => (2, run.complain ("grep: " ++ e.message))
      | .ok target =>
        let places := searchOperands parsed operands run
        let many := 1 < places.length || (parsed.hasAny "rR" && places != operands)
        let named := match ((parsed.options.map (·.1)).filter fun c => c == 'h' || c == 'H').getLast?
          with
          | some c => c == 'H'
          | none => many
        let view : SearchView := ⟨parsed, target, context, named⟩
        let quiet := parsed.has 'q'
        let step (name : String) (held : Except IoError Flow) (state : SearchState) (run : Run) :
            SearchState × Run :=
          if quiet && state.any then (state, run)
          else
            let (bytes, failed, run) : Bytes × Bool × Run := match held with
              | .ok flow =>
                let bytes :=
                  flow.known
                (bytes, false, run)
              | .error e =>
                ([], true, if parsed.has 's' then run else run.complain (complainOf "grep" name e))
            let searched : Bool := match held with
              | .error e => e = .os .isDirectory
              | .ok _ => true
            if searched then
              let (shown, found, complaint) := view.file state.shown name bytes
              let run := complaint.elim (run.write shown) (run.write shown).complain
              (⟨state.any || found, state.shown || !shown.isEmpty, state.failed || failed⟩, run)
            else ({ state with failed := true }, run)
        let (state, run) := foldOperands step places ⟨false, false, false⟩ run
        let code := if state.failed && !(quiet && state.any) then 2 else if state.any then 0 else 1
        (code, run)

end LineShell.Machine
