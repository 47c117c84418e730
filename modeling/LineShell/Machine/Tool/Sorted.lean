import LineShell.Machine.Tool.Order

/-!
# Lines of sorted files

Lines that repeat the one before, and lines that two files have in common.
-/
namespace LineShell.Machine

/-- Runs of lines that are alike. -/
def lineRuns (same : Bytes → Bytes → Bool) : List Bytes → List (List Bytes)
  | [] => []
  | line :: rest =>
    match lineRuns same rest with
    | (next :: others) :: runs =>
      if same line next then (line :: next :: others) :: runs
      else [line] :: (next :: others) :: runs
    | runs => [line] :: runs

/-- The part of a line that repeats are told by. -/
structure RepeatKey where
  fields : Nat
  bytes : Nat
  limit : Option Nat
  ignoresCase : Bool

/-- The part of a line that repeats are told by. -/
def RepeatKey.part (key : RepeatKey) (line : Bytes) : Bytes :=
  let s := (skipFields none key.fields line).drop key.bytes
  let s := key.limit.elim s s.take
  if key.ignoresCase then s.map lowerByte else s

/-- Where empty lines set runs of lines apart. -/
inductive Delimiting where
  | nowhere
  | before
  | between
  | after
  | around
  deriving DecidableEq

/-- Runs of lines with empty lines among them. -/
def Delimiting.apply (delimiting : Delimiting) (runs : List (List Bytes)) : List Bytes :=
  match delimiting with
  | .nowhere => runs.flatten
  | .before => runs.flatMap fun run => [] :: run
  | .between => ([[]] : List Bytes).intercalate runs
  | .after => runs.flatMap fun run => run ++ [[]]
  | .around => if runs.isEmpty then [] else [] :: runs.flatMap fun run => run ++ [[]]

/-- What is shown of runs of lines. -/
structure RepeatView where
  /-- Whether lines that stand alone are shown. -/
  single : Bool
  /-- Whether one line of each run is shown. -/
  first : Bool
  /-- Whether the others are. -/
  others : Bool
  counted : Bool
  delimiting : Delimiting

def RepeatView.lines (view : RepeatView) (run : List Bytes) : List Bytes :=
  let counted (line : Bytes) : Bytes :=
    if view.counted then Raw.encode (padNumber 7 run.length ++ " ") ++ line else line
  match run with
  | [line] => if view.single then [counted line] else []
  | run =>
    if view.others then if view.first then run else run.dropLast
    else if view.first then (run.take 1).map counted
    else []

/-- The lines that are shown of all runs. -/
def RepeatView.apply (view : RepeatView) (runs : List (List Bytes)) : List Bytes :=
  view.delimiting.apply ((runs.map view.lines).filter (!·.isEmpty))

/-- The words for places of empty lines among repeated lines. -/
def repeatedChoices : List (List (String × Delimiting)) :=
  [[("none", .nowhere)], [("prepend", .before)], [("separate", .between)]]

/-- The words for places of empty lines among groups. -/
def groupChoices : List (List (String × Delimiting)) :=
  [[("prepend", .before)], [("append", .after)], [("separate", .between)], [("both", .around)]]

/-- The options of the tool for repeated lines. -/
def uniqTable : OptionTable where
  flags := "cdDuiz0123456789"
  valued := "fsw"
  optional := "AG"
  long := [("count", 'c'), ("repeated", 'd'), ("all-repeated", 'A'), ("group", 'G'),
    ("unique", 'u'), ("ignore-case", 'i'), ("zero-terminated", 'z'), ("skip-fields", 'f'),
    ("skip-chars", 's'), ("check-chars", 'w')]

/-- What the words of the tool for repeated lines ask for. -/
def repeatRequest (parsed : Parsed) : Except String (RepeatKey × RepeatView) := do
  let number (letter : Char) (what : String) : Except String (Option Nat) :=
    (parsed.values letter).foldlM (fun _ word =>
      match word.toNat? with
      | some n => .ok (some n)
      | none => .error ("uniq: " ++ word ++ ": invalid number of " ++ what)) none
  let all ← (parsed.value? 'A').mapM fun word =>
    if word.isEmpty then .ok .nowhere else choice "uniq" "--all-repeated" repeatedChoices word
  let group ← (parsed.value? 'G').mapM fun word =>
    if word.isEmpty then .ok .between else choice "uniq" "--group" groupChoices word
  let fields ← number 'f' "fields to skip"
  let bytes ← number 's' "bytes to skip"
  let limit ← number 'w' "bytes to compare"
  let digits := (parsed.options.map (·.1)).filter Char.isDigit
  let oldFields := digits.foldl (fun n c => n * 10 + (c.toNat - 48)) 0
  let others := parsed.has 'D' || all.isSome
  if group.isSome && (others || parsed.hasAny "cdu") then
    throw (withHelp "uniq" "uniq: --group is mutually exclusive with -c/-d/-D/-u")
  if others && parsed.has 'c' then
    throw (withHelp "uniq"
      "uniq: printing all duplicated lines and repeat counts is meaningless")
  return (⟨fields.getD oldFields, bytes.getD 0, limit, parsed.has 'i'⟩,
    { single := !(others || parsed.has 'd')
      first := !parsed.has 'u'
      others := others || group.isSome
      counted := parsed.has 'c'
      delimiting := group.getD (all.getD .nowhere) })

/-- Drops repeated lines, or shows which are. -/
def uniqTool : Tool :=
  withOptions "uniq" 1 uniqTable fun parsed run =>
    match parsed.operands.drop 2, repeatRequest parsed with
    | extra :: _, _ =>
      (1, run.complain (withHelp "uniq" ("uniq: extra operand " ++ quoteText extra)))
    | [], .error complaint => (1, run.complain complaint)
    | [], .ok (key, view) =>
      let complaint (name : String) (e : IoError) : String :=
        if e = .os .isDirectory then "uniq: error reading " ++ quoteName name ++ ": Is a directory"
        else cannotOpen "uniq" name e
      let input := operandsOrInput (parsed.operands.take 1)
      let output := (parsed.operands[1]?).filter (· ≠ "-")
      let (opened, run) : Except IoError Unit × Run := match output with
        | none => (.ok (), run)
        | some name =>
          if input.all fun name => name = "-" || (run.read name).isOk then
            run.attempt fun fs => fs.update (run.resolve name) fun _ => []
          else (.ok (), run)
      match opened with
      | .error e => (1, run.complain (cannotOpen "uniq" (output.getD "") e))
      | .ok () =>
        let (flows, ok, run) := readOperands complaint input run
        let ending : UInt8 := if parsed.has 'z' then 0 else 10
        let same (a b : Bytes) : Bool := key.part a == key.part b
        let runs := lineRuns same (piecesBy ending (joinFlows flows).known)
        if !ok then (1, run) else writeResult "uniq" output (endBy ending (view.apply runs)) run

/-- What there is to tell of two sorted files. -/
inductive Compared where
  /-- A line of the first file, of the second one, or of both. -/
  | line (left right : Bool) (text : Bytes)
  /-- The first or the second file is not sorted. -/
  | disorder (left : Bool)

/-- What is left of a file: its lines, the one before them, and whether it is known not to be
sorted. -/
structure Side where
  lines : List Bytes
  before : Option Bytes
  disordered : Bool

/-- Goes to the next line of a file, and tells whether this shows that the file is not sorted. At the
end the last two lines are looked at again. -/
def Side.advance (side : Side) (checked : Bool) : Bool × Side :=
  match side.lines with
  | [] => (false, side)
  | line :: rest =>
    let wrong := match rest with
      | next :: _ => compare line next == .gt
      | [] => compare (side.before.getD line) line == .gt
    let told := checked && !side.disordered && wrong
    (told, ⟨rest, some line, side.disordered || told⟩)

/-- Compares two files line by line. Order matters once a line is in one of them only, or `always`.
-/
def compareSides (always : Bool) : Nat → Bool → Side → Side → List Compared
  | 0, _, _, _ => []
  | fuel + 1, unpaired, left, right =>
    let order : Option Ordering := match left.lines, right.lines with
      | [], [] => none
      | [], _ => some .gt
      | _, [] => some .lt
      | a :: _, b :: _ => some (compare a b)
    match order with
    | none => []
    | some order =>
      let unpaired := unpaired || order != .eq
      let text := if order == .gt then right.lines.headD [] else left.lines.headD []
      let checked := always || unpaired
      let (leftWrong, left) := if order == .gt then (false, left) else left.advance checked
      let (rightWrong, right) := if order == .lt then (false, right) else right.advance checked
      .line (order != .gt) (order != .lt) text
        :: (if leftWrong then [.disorder true] else [])
        ++ (if rightWrong then [.disorder false] else [])
        ++ compareSides always fuel unpaired left right

def commTable : OptionTable where
  flags := "123zOPT"
  valued := "D"
  long := [("output-delimiter", 'D'), ("zero-terminated", 'z'), ("check-order", 'O'),
    ("nocheck-order", 'P'), ("total", 'T')]

/-- What two files have in common, in columns. -/
def showCompared (parsed : Parsed) (as bs : List Bytes) (run : Run) : Nat × Run :=
  let ending : UInt8 := if parsed.has 'z' then 0 else 10
  let gap : Bytes := match parsed.value? 'D' with
    | none => [9]
    | some "" => [0]
    | some word => Raw.encode word
  let always := parsed.has 'O' && !parsed.has 'P'
  let all := compareSides always (as.length + bs.length + 1) false ⟨as, none, false⟩ ⟨bs, none, false⟩
  let isDisorder : Compared → Bool := fun
    | .disorder _ => true
    | .line .. => false
  let all := if parsed.has 'P' then all.filter (!isDisorder ·) else all
  let all := if always then all.take (all.findIdx isDisorder + 1) else all
  let run := all.foldl (fun (run : Run) compared =>
    match compared with
    | .disorder left =>
      run.complain
        ("comm: file " ++ (if left then "1" else "2") ++ " is not in sorted order")
    | .line left right text =>
      let column := if left && right then '3' else if left then '1' else '2'
      let before := ['1', '2'].filter fun c => c < column && !parsed.has c
      if parsed.has column then run
      else run.write ((before.flatMap fun _ => gap) ++ text ++ [ending])) run
  if always && all.any isDisorder then (1, run)
  else
    let count (left right : Bool) : Bytes :=
      Raw.encode (toString (all.countP fun
        | .line l r _ => l == left && r == right
        | .disorder _ => false))
    let totals := gap.intercalate
      [count true false, count false true, count true true, Raw.encode "total"] ++ [ending]
    let run := if parsed.has 'T' then run.write totals else run
    if all.any isDisorder then (1, run.complain "comm: input is not in sorted order") else (0, run)

/-- Compares two sorted files line by line. -/
def commTool : Tool :=
  withOptions "comm" 1 commTable fun parsed run =>
    let help (complaint : String) : Nat × Run := (1, run.complain (withHelp "comm" complaint))
    if 1 < (parsed.values 'D').eraseDups.length then
      (1, run.complain "comm: multiple output delimiters specified")
    else
      match parsed.operands with
      | [] => help "comm: missing operand"
      | [only] => help ("comm: missing operand after " ++ quoteText only)
      | [first, second] =>
        let ending : UInt8 := if parsed.has 'z' then 0 else 10
        match readOperands (cannotOpen "comm") [first] run with
        | ([(_, a)], true, run) =>
          match readOperands (cannotOpen "comm") [second] run with
          | ([(_, b)], true, run) =>
            showCompared parsed (piecesBy ending a.known) (piecesBy ending b.known) run
          | (_, _, run) => (1, run)
        | (_, _, run) => (1, run)
      | _ :: _ :: extra :: _ => help ("comm: extra operand " ++ quoteText extra)

end LineShell.Machine
