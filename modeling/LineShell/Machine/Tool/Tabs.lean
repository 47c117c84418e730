import LineShell.Machine.Tool.Lines

/-!
# Tabs and blanks

A tab leads to the next of the stops, which lie at equal distances or are listed.
-/
namespace LineShell.Machine

/-- Where tabs lead to. -/
structure TabStops where
  stops : List Nat
  /-- The distance between the stops after the last one. -/
  every : Option Nat
  /-- Whether these stops are counted from the last one. -/
  fromLast : Bool

/-- The next tab stop after a column. After the last of several stops a tab is a single column. -/
def TabStops.next (tabs : TabStops) (column : Nat) : Nat :=
  match tabs.stops.find? (column < ·), tabs.every with
  | some stop, _ => stop
  | none, some size =>
    let start := if tabs.fromLast then tabs.stops.getLastD 0 else 0
    column + (size - (column - start) % size)
  | none, none => column + 1

/-- The stops that words list. A number after a slash is the distance between stops, as one number
alone is, and so is one after a plus, counted from the last stop. -/
def tabStops (words : List String) : Except String TabStops := do
  let isDivider (c : Char) : Bool := c == ',' || c == ' ' || c == '\t'
  let items := (words.flatMap fun word => word.toList.splitOnP isDivider).filter (!·.isEmpty)
  let (tabs, _) ← items.foldlM (fun ((tabs, last) : TabStops × Option Char) item => do
    let digits := item.dropWhile fun c => c == '/' || c == '+'
    let bad := digits.dropWhile Char.isDigit
    match bad with
    | [] => pure ()
    | '/' :: _ | '+' :: _ =>
      throw (quoteText (String.ofList (bad.take 1)) ++ " specifier not at start of number: "
        ++ quoteText (String.ofList bad))
    | _ => throw ("tab size contains invalid character(s): " ++ quoteText (String.ofList bad))
    let n : Nat := digits.foldl (fun n c => n * 10 + (c.toNat - 48)) 0
    if Nat.pow 2 64 ≤ n then
      throw ("tab stop is too large " ++ quoteText (String.ofList digits))
    -- A mark goes on to be meant.
    let mark := (item.take (item.length - digits.length)).getLast?.or last
    match mark with
    | some c =>
      if tabs.every.isSome then
        throw (quoteText c.toString ++ " specifier only allowed with the last value")
      else if n = 0 then pure (tabs, mark)
      else pure ({ tabs with every := some n, fromLast := c == '+' }, mark)
    | none => pure ({ tabs with stops := tabs.stops ++ [n] }, none)) (⟨[], none, false⟩, none)
  if tabs.stops.contains 0 then throw "tab size cannot be 0"
  if (tabs.stops.zip tabs.stops.tail).any fun (a, b) => b ≤ a then
    throw "tab sizes must be ascending"
  match tabs.stops, tabs.every with
  | [], none => return ⟨[], some 8, false⟩
  | [size], none => return ⟨[], some size, false⟩
  | _, _ => return tabs

/-- The words of a command line with an old-style list of stops made an option. -/
def modernStops (args : List String) : List String :=
  args.map fun word =>
    match word.toList with
    | '-' :: c :: cs => if c.isDigit then "-t" ++ String.ofList (c :: cs) else word
    | _ => word

/-- A line with its tabs made blanks, from a column on; if only those at the beginning are meant,
others stay. -/
def expandLine (tabs : TabStops) (initial : Bool) : Nat → Bytes → Bytes
  | _, [] => []
  | column, b :: rest =>
    if b = 9 then
      let next := tabs.next column
      List.replicate (next - column) 32 ++ expandLine tabs initial next rest
    else if initial && b != 32 then b :: rest
    else b :: expandLine tabs initial (if b = 8 then column - 1 else column + 1) rest

/-- Makes tabs blanks. -/
def expandTool : Tool := fun args run =>
  withOptions "expand" 1
    { flags := "i", valued := "t", long := [("initial", 'i'), ("tabs", 't')] }
    (fun parsed run =>
      match tabStops (parsed.values 't') with
      | .error complaint => (1, run.complain ("expand: " ++ complaint))
      | .ok tabs =>
        let line := expandLine tabs (parsed.has 'i') 0
        writeOperands (cannotOpen "expand") (onBytes (mapLines (·.map line)))
          (operandsOrInput parsed.operands) run)
    (modernStops args) run

/-- How far the blanks of a line have been made tabs. -/
structure Tabbing where
  /-- Whether blanks are still made tabs. -/
  converts : Bool := true
  column : Nat := 0
  /-- The blanks that are not yet written. -/
  pending : Bytes := []
  /-- Whether the first of these stands just before a stop. -/
  blankBeforeStop : Bool := false
  afterBlank : Bool := true

/-- The next tab stop after a column, unless the listed ones are behind it. -/
def TabStops.next? (tabs : TabStops) (column : Nat) : Option Nat :=
  if tabs.every.isSome || tabs.stops.any (column < ·) then some (tabs.next column) else none

/-- The blanks that are held back, as they are written. -/
def Tabbing.held (state : Tabbing) : Bytes :=
  match state.pending with
  | _ :: c :: rest => if state.blankBeforeStop then 9 :: c :: rest else state.pending
  | pending => pending

/-- Reads a byte of a line. Blanks up to a stop become a tab, but a single blank before a stop stays
if no blank follows it. -/
def Tabbing.step (tabs : TabStops) (all : Bool) (state : Tabbing) (b : UInt8) : Bytes × Tabbing :=
  let blank := b = 32 || b = 9
  -- Writes what is held back of some blanks, and then a byte.
  let write (pending : Bytes) (b : UInt8) (column : Nat) (converts : Bool) : Bytes × Tabbing :=
    ({ state with pending }.held ++ [b],
      { column, converts := converts && (all || blank), pending := []
        blankBeforeStop := state.blankBeforeStop && pending.isEmpty, afterBlank := blank })
  let kept : Bytes := if state.blankBeforeStop then [9] else []
  if !state.converts then ([b], state)
  else if blank then
    match tabs.next? state.column with
    | none => write state.pending b state.column false
    | some next =>
      if b = 9 then write kept 9 next true
      else if state.afterBlank && state.column + 1 = next then write kept 9 next true
      else
        ([], { state with
          column := state.column + 1
          pending := state.pending ++ [b]
          blankBeforeStop := state.blankBeforeStop || state.column + 1 = next
          afterBlank := true })
  else write state.pending b (if b = 8 then state.column - 1 else state.column + 1) true

def unexpandLine (tabs : TabStops) (all : Bool) : Tabbing → Bytes → Bytes
  | state, [] => state.held
  | state, b :: rest =>
    let (written, state) := state.step tabs all b
    written ++ unexpandLine tabs all state rest

/-- Makes blanks tabs. -/
def unexpandTool : Tool := fun args run =>
  let modern := args.map fun word =>
    match word.toList with
    | '-' :: c :: cs => if c.isDigit then "--old-tabs=" ++ String.ofList (c :: cs) else word
    | _ => word
  withOptions "unexpand" 1
    { flags := "a1"
      valued := "to"
      long := [("all", 'a'), ("first-only", '1'), ("tabs", 't'), ("old-tabs", 'o')] }
    (fun parsed run =>
      match tabStops (parsed.values 't' ++ parsed.values 'o') with
      | .error complaint => (1, run.complain ("unexpand: " ++ complaint))
      | .ok tabs =>
        let line := unexpandLine tabs (parsed.hasAny "at" && !parsed.has '1') ⟨true, 0, [], false, true⟩
        writeOperands (cannotOpen "unexpand") (onBytes (mapLines (·.map line)))
          (operandsOrInput parsed.operands) run)
    modern run

end LineShell.Machine
