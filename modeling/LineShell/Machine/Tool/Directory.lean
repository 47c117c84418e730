import LineShell.Machine.Tool.Files

/-!
# Listing directories, and comparing files
-/
namespace LineShell.Machine

/-- The mark that a name gets after it, by what it names. -/
def entryMark (node : Node) : String :=
  match node with
  | .dir _ => "/"
  | .link _ => "@"
  | .file _ true => "*"
  | _ => ""

def sizeOf (node : Node) : Nat :=
  match node with
  | .file content _ => content.length
  | .link target => target.length
  | _ => 4096

/-- The ending of a name, with its point. -/
def endingOf (name : String) : String :=
  let s := name.toList
  let ending := (s.reverse.takeWhile (· != '.')).reverse
  if ending.length < s.length then String.ofList ('.' :: ending) else ""

/-- Entries in the order that options ask for. -/
def orderEntries (parsed : Parsed) (entries : Entries) : Entries :=
  let byName := Node.sortEntries entries
  let ordered :=
    if parsed.hasAny "Uf" then entries
    else if parsed.has 'S' then
      byName.mergeSort fun a b => decide (sizeOf b.2 ≤ sizeOf a.2)
    else if parsed.has 'X' then
      byName.mergeSort fun a b => decide (endingOf (Raw.decode a.1) ≤ endingOf (Raw.decode b.1))
    else byName
  if parsed.has 'r' then ordered.reverse else ordered

def shownEntry (parsed : Parsed) (name : String) (node : Node) : String :=
  let quoted := if parsed.has 'Q' then "\"" ++ name ++ "\"" else name
  if parsed.has 'F' then quoted ++ entryMark node
  else if parsed.has 'p' && node.isDir then quoted ++ "/"
  else quoted

/-- Names, one a line or with commas between them. -/
def nameLines (parsed : Parsed) (names : List String) : String :=
  if names.isEmpty then ""
  else if parsed.has 'm' then ", ".intercalate names ++ "\n"
  else String.join (names.map (· ++ if parsed.has '0' then "\x00" else "\n"))

def shownEntries (parsed : Parsed) (entries : Entries) : Entries :=
  let dots : Entries := [([Path.dot], .dir []), ([Path.dot, Path.dot], .dir [])]
  let shown :=
    if parsed.hasAny "af" then dots ++ entries
    else if parsed.has 'A' then entries
    else entries.filter fun (name, _) => name.head? != some Path.dot
  orderEntries parsed shown

/-- A directory and those below it, each with its entries. -/
def directoriesBelow (parsed : Parsed) : Nat → String → Entries → List (String × Entries)
  | 0, _, _ => []
  | depth + 1, name, entries =>
    let shown := shownEntries parsed entries
    (name, shown) :: shown.flatMap fun (entry, node) =>
      match node with
      | .dir inner =>
        if entry = [Path.dot] || entry = [Path.dot, Path.dot] then []
        else
          directoriesBelow parsed depth (Raw.below name entry) inner
      | _ => []

def lsTable : OptionTable where
  flags := "aA1rdFpCRfUtSqNmQXlhinogscukLHxbBGZ"
  valued := "wIT"
  long := [("all", 'a'), ("almost-all", 'A'), ("reverse", 'r'), ("directory", 'd'),
    ("classify", 'F'), ("recursive", 'R'), ("quote-name", 'Q'), ("literal", 'N'), ("zero", '0'),
    ("group-directories-first", 'G'), ("human-readable", 'h'), ("dereference", 'L'),
    ("hide-control-chars", 'q'), ("width", 'w'), ("ignore", 'I')]

/-- Lists directories, one name a line. -/
def lsTool : Tool :=
  withOptions "ls" 2 lsTable fun parsed run =>
    let operands := if parsed.operands.isEmpty then ["."] else parsed.operands
    let operands := operands.mergeSort fun a b => decide (a ≤ b)
    let operands := if parsed.has 'r' then operands.reverse else operands
    let step := fun (state : List String × List (String × Entries) × Nat × Run) name =>
      let (files, dirs, code, run) := state
      let failed (e : IoError) :=
        (files, dirs, 2, run.complain ("ls: cannot access " ++ quoteName name ++ ": " ++ plainMessage e))
      let path := run.resolve name
      match run.files.locate (if parsed.hasAny "dF" then .followAtSlash else .follow) path with
      | .ok (.found _ (.dir entries) ..) =>
        if parsed.has 'd' then (files ++ [shownEntry parsed name (.dir [])], dirs, code, run)
        else (files, dirs ++ [(name, entries)], code, run)
      | .ok (.found _ node _ slash) =>
        if slash then failed (.os .notDirectory)
        else (files ++ [shownEntry parsed name node], dirs, code, run)
      | .ok (.missing ..) =>
        match run.files.locate .keep path with
        | .ok (.found ..) => (files ++ [name], dirs, code, run)
        | _ => failed (.os .noEntry)
      | .error e => failed e
    let (files, dirs, code, run) := operands.foldl step ([], [], 0, run)
    let headed := 1 < operands.length || parsed.has 'R'
    let listed := dirs.flatMap fun (name, entries) =>
      if parsed.has 'R' then directoriesBelow parsed 256 name entries
      else [(name, shownEntries parsed entries)]
    let sections := listed.map fun (name, entries) =>
      (if headed then name ++ ":\n" else "")
        ++ nameLines parsed (entries.map fun (name, node) => shownEntry parsed (Raw.decode name) node)
    let parts := (if files.isEmpty then [] else [nameLines parsed files]) ++ sections
    (code, run.put ("\n".intercalate parts))

/-- The number of bytes at the beginning that two texts have in common. -/
def commonLength : Bytes → Bytes → Nat
  | a :: as, b :: bs => if a = b then commonLength as bs + 1 else 0
  | _, _ => 0

/-- Compares two files byte by byte. -/
def cmpTool : Tool :=
  withOptions "cmp" 2
    { flags := "sbl", valued := "ni", long := [("silent", 's'), ("quiet", 's'), ("verbose", 'l')] }
    fun parsed run =>
      match parsed.operands with
      | [] => (2, run.complain (withHelp "cmp" "cmp: missing operand after 'cmp'"))
      | first :: rest =>
        let second := rest.headD "-"
        let errors := run.errors
        let run := if parsed.has 's' then { run with errors := .nothing } else run
        let (flows, ok, run) := readOperands (complainOf "cmp") [first, second] run
        let run := { run with errors }
        match ok, flows with
        | true, [(_, a), (_, b)] =>
          let n := commonLength a.bytes b.bytes
          let line := (a.bytes.take n).count 10 + 1
          match a.bytes.drop n, b.bytes.drop n with
          | [], [] => (0, run)
          | _ :: _, _ :: _ =>
            (1, if parsed.has 's' then run
              else run.put (first ++ " " ++ second ++ " differ: char " ++ toString (n + 1)
                ++ ", line " ++ toString line ++ "\n"))
          | left, _ =>
            let short := if left.isEmpty then first else second
            let place :=
              if n = 0 then " which is empty"
              else
                " after byte " ++ toString n
                  ++ (if (a.bytes.take n).getLast? = some 10 then ", line " else ", in line ")
                  ++ toString (if (a.bytes.take n).getLast? = some 10 then line - 1 else line)
            (1, if parsed.has 's' then run else run.complain ("cmp: EOF on " ++ short ++ place))
        | _, _ => (2, run)

end LineShell.Machine
