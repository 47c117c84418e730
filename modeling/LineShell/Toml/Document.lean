import LineShell.Toml.Value

/-!
# Documents in TOML

A document is a sequence of pairs and headers, one a line. A header opens a table for the pairs
after it. No table is defined twice, and no pair replaces another.
-/
namespace LineShell.Toml

/-- Changes the entries of the table that a path leads to. Tables that are missing on the way are
made, implicit ones. A dotted path may only go through tables that were made implicitly, and must
end in one made by a dotted path. -/
def descend (dotted : Bool) (f : Entries → Option Entries) : List String → Entries → Option Entries
  | [], entries => f entries
  | part :: path, entries =>
    match entries.lookup part with
    | none => do
      let inner ← descend dotted f path []
      return entries.set part (.table true dotted inner)
    | some (.table implicit wasDotted inner) => do
      if dotted && (!implicit || (path.isEmpty && !wasDotted)) then none
      let inner ← descend dotted f path inner
      return entries.set part (.table implicit wasDotted inner)
    | some (.tables each) => do
      if dotted && path.isEmpty then none
      let inner ← descend dotted f path (← each.getLast?)
      return entries.set part (.tables (each.dropLast ++ [inner]))
    | some _ => none

inductive Line where
  | pair (path : List String) (key : String) (item : Item)
  /-- A header in single brackets. -/
  | header (path : List String) (key : String)
  /-- A header in double brackets. -/
  | tablesHeader (path : List String) (key : String)

/-- A document in the making: the tables that are finished, the header of the one that is open, and
its entries so far. Without a header the pairs belong to the document itself. -/
structure Draft where
  finished : Entries
  header : Option (List String × String × Bool)
  current : Entries

namespace Draft

/-- Closes the open table. -/
def close? (draft : Draft) : Option Entries :=
  match draft.header with
  | none => some draft.current
  | some (path, key, false) =>
    descend false (fun entries => some (entries.set key (.table false false draft.current))) path
      draft.finished
  | some (path, key, true) =>
    descend false
      (fun entries =>
        match entries.lookup key with
        | none => some (entries.set key (.tables [draft.current]))
        | some (.tables each) => some (entries.set key (.tables (each ++ [draft.current])))
        | some _ => none)
      path draft.finished

/-- The entries that a path leads to, or none where there are none yet. -/
def find? : List String → Entries → Option Entries
  | [], entries => some entries
  | part :: path, entries =>
    match entries.lookup part with
    | none => some []
    | some (.table _ _ inner) => find? path inner
    | some (.tables each) => each.getLast?.bind (find? path)
    | some _ => none

def add? (draft : Draft) : Line → Option Draft
  | .pair path key item => do
    let current ← descend true (·.insertNew? key item) path draft.current
    return { draft with current }
  | .header path key => do
    let finished ← draft.close?
    match (← find? path finished).lookup key with
    | none => return ⟨finished, some (path, key, false), []⟩
    | some (.table true false entries) => return ⟨finished, some (path, key, false), entries⟩
    | some _ => none
  | .tablesHeader path key => do
    let finished ← draft.close?
    match (← find? path finished).lookup key with
    | none | some (.tables _) => return ⟨finished, some (path, key, true), []⟩
    | some _ => none

end Draft

/-- A pair with the rest of its line. -/
def pairLine : Scan Line := do
  let (path, key) ← key
  Scan.char '='
  white
  let item ← value
  lineTrailing
  return .pair path key item

/-- A header with the rest of its line. -/
def headerLine : Scan Line :=
  (do
    Scan.literal "[["
    let (path, key) ← key
    Scan.literal "]]"
    lineTrailing
    return .tablesHeader path key)
  <|> (do
    Scan.char '['
    let (path, key) ← key
    Scan.char ']'
    lineTrailing
    return .header path key)

/-- A line that says something, or one that does not. -/
def line : Scan (Option Line) := do
  let found ←
    (do newline; return none)
    <|> (do comment; lineEnd; return none)
    <|> (do return some (← headerLine))
    <|> (do return some (← pairLine))
  white
  return found

/-- The lines of a document, which may begin with a byte order mark. -/
def lines : Scan (List Line) := do
  let _ ← optional (Scan.char '\ufeff')
  white
  return (← Scan.many line).filterMap id

def parse? (text : String) : Option Entries := do
  let lines ← Scan.ofAll? lines text.toList
  let draft ← lines.foldlM Draft.add? ⟨[], none, []⟩
  draft.close?

end LineShell.Toml
