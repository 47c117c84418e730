import LineShell.Machine.Tool.Options

/-!
# Beginnings and ends of files
-/
namespace LineShell.Machine

/-- How much of a file is meant. -/
structure Extent where
  /-- Whether bytes are counted, and not lines. -/
  inBytes : Bool
  count : Nat
  /-- The sign before the count. -/
  sign : Option Char

/-- The number of a count, with the sign before it. A letter after it multiplies it. -/
def count? (word : String) : Option (Nat × Option Char) :=
  let (sign, s) := match word.toList with
    | '+' :: cs => (some '+', cs)
    | '-' :: cs => (some '-', cs)
    | cs => (none, cs)
  let digits := s.takeWhile Char.isDigit
  let unit : Option Nat := match String.ofList (s.dropWhile Char.isDigit) with
    | "" => some 1
    | "b" => some 512
    | "kB" | "KB" => some 1000
    | "k" | "K" | "KiB" => some 1024
    | "MB" => some 1000000
    | "m" | "M" | "MiB" => some (1024 * 1024)
    | "G" | "GiB" => some (1024 * 1024 * 1024)
    | _ => none
  if digits.isEmpty then none
  else do
    let n ← (String.ofList digits).toNat?
    return (n * (← unit), sign)

/-- The words of the tool for beginnings with a count such as `-5` or `-5c` at their front made
options; letters after the count are options too. -/
def modernHead (args : List String) : List String :=
  match args with
  | first :: rest =>
    match first.toList with
    | '-' :: cs =>
      let digits := cs.takeWhile Char.isDigit
      let letters := cs.drop digits.length
      if digits.isEmpty || !letters.all fun c => "cbkmlqvz".contains c then args
      else
        let kinds := letters.filter fun c => "cbkml".contains c
        let others := (letters.filter fun c => "qvz".contains c).map fun c => "-" ++ c.toString
        let count := String.ofList digits
        let option := match kinds.getLast? with
          | none | some 'l' => ["-n", count]
          | some 'c' => ["-c", count]
          | some unit => ["-c", count ++ unit.toString]
        option ++ others ++ rest
    | _ => args
  | [] => args

/-- The words of the tool for ends with a count such as `-5`, `+5` or `-5c` at their front made
options. There may be no more than one operand after it. -/
def modernTail (args : List String) : List String :=
  let lone := match args with
    | [_] | [_, "-"] | [_, "--"] | [_, "--", _] => true
    | [_, operand] => !operand.startsWith "-"
    | _ => false
  match args with
  | first :: rest =>
    match first.toList with
    | sign :: cs =>
      let digits := cs.takeWhile Char.isDigit
      let (letter, more) : Char × List Char := match cs.drop digits.length with
        | 'c' :: more => ('c', more)
        | 'b' :: more => ('b', more)
        | 'l' :: more => ('l', more)
        | more => ('l', more)
      let bare := digits.isEmpty && (cs.isEmpty || cs = ['c'])
      if !lone || !(sign = '+' || (sign = '-' && !bare)) || !(more.isEmpty || more = ['f']) then args
      else
        let count := if digits.isEmpty then "10" else String.ofList digits
        let word := (if sign = '+' then "+" else "") ++ count ++ if letter = 'b' then "b" else ""
        (if letter = 'l' then "-n" else "-c") :: word :: rest
    | [] => args
  | [] => args

def extentOf (tool : String) (parsed : Parsed) : Except String Extent :=
  match (parsed.options.filter fun o => o.1 == 'n' || o.1 == 'c').getLast? with
  | none => .ok ⟨false, 10, none⟩
  | some (letter, word) =>
    match count? word with
    | some (n, sign) => .ok ⟨letter == 'c', n, sign⟩
    | none =>
      .error (tool ++ ": invalid number of " ++ (if letter = 'c' then "bytes" else "lines") ++ ": "
        ++ quoteText word)

/-- The beginning of a flow, and what is left of it. -/
def headOf (ending : UInt8) (extent : Extent) (flow : Flow) : Bytes × Flow :=
  if extent.inBytes then
    if extent.sign = some '-' then (flow.bytes.take (flow.bytes.length - extent.count), .empty)
    else flow.splitAt extent.count
  else if extent.sign = some '-' then
    let lines := rawPiecesBy ending flow.known
    ((lines.take (lines.length - extent.count)).flatten, .empty)
  else if ending = 10 then flow.splitAtLine extent.count
  else (((rawPiecesBy ending flow.known).take extent.count).flatten, .empty)

def tailOf (ending : UInt8) (extent : Extent) (bytes : Bytes) : Bytes :=
  if extent.inBytes then
    if extent.sign = some '+' then bytes.drop (extent.count - 1)
    else bytes.drop (bytes.length - extent.count)
  else
    let lines := rawPiecesBy ending bytes
    if extent.sign = some '+' then (lines.drop (extent.count - 1)).flatten
    else (lines.drop (lines.length - extent.count)).flatten

/-- The heading before a part of a file; the flag tells whether something comes before it. -/
def headingOf (later : Bool) (name : String) : String :=
  let shown := if name = "-" then "standard input" else name
  (if later then "\n" else "") ++ "==> " ++ shown ++ " <==\n"

/-- The options of the two tools. -/
def extentTable : OptionTable where
  flags := "qvzf0123456789"
  valued := "nc"
  long := [("bytes", 'c'), ("lines", 'n'), ("quiet", 'q'), ("silent", 'q'), ("verbose", 'v'),
    ("zero-terminated", 'z'), ("follow", 'f')]

/-- What sets the two tools apart. -/
structure ExtentKind where
  tool : String
  /-- The words with a count at their front made options. -/
  modern : List String → List String
  /-- The complaint of a digit that is no such count. -/
  misplaced : Char → String
  /-- Whether nothing is read if nothing is asked for. -/
  idle : Bool
  /-- The part of a flow, and what is left of the flow. -/
  partOf : UInt8 → Extent → Flow → Bytes × Flow

/-- Shows parts of files. -/
def ExtentKind.run (kind : ExtentKind) : Tool := fun args run =>
  let tool := kind.tool
  withOptions tool 1 extentTable (fun parsed run =>
    match parsed.options.find? (·.1.isDigit), extentOf tool parsed with
    | some (digit, _), _ => (1, run.complain (kind.misplaced digit))
    | none, .error complaint => (1, run.complain complaint)
    | none, .ok extent =>
      if kind.idle && extent.count = 0 && extent.sign != some '+' then (0, run) else
      let ending : UInt8 := if parsed.has 'z' then 0 else 10
      let operands := operandsOrInput parsed.operands
      let asked := ((parsed.options.map (·.1)).filter fun c => c = 'v' || c = 'q').getLast?
      let headed := asked.elim (decide (1 < operands.length)) (· == 'v')
      let (code, _, run) := operands.foldl (fun (state : Nat × Bool × Run) name =>
        let (code, later, run) := state
        let shown (run : Run) (bytes : Bytes) : Run :=
          (if headed then run.put (headingOf later name) else run).write bytes
        if name = "-" || name = "/dev/stdin" then
          let run := run.waitUntil run.inputReady
          let (bytes, input) := kind.partOf ending extent run.input
          (code, true, shown { run with input } bytes)
        else
          match run.read name with
          | .ok bytes => (code, true, shown run (kind.partOf ending extent (.ofBytes bytes)).1)
          | .error e =>
            let isDir := e = .os .isDirectory
            let run := if isDir then shown run [] else run
            (1, later || isDir, run.complain (cannotOpenQuoted tool name e))) (0, false, run)
      (code, run))
    (kind.modern args) run

def headTool : Tool :=
  ExtentKind.run
    ⟨"head", modernHead, (fun digit =>
      withHelp "head" ("head: invalid trailing option -- " ++ digit.toString)), false, headOf⟩

def tailTool : Tool :=
  ExtentKind.run
    ⟨"tail", modernTail, (fun digit =>
      "tail: option used in invalid context -- " ++ digit.toString), true,
      fun ending extent flow => (tailOf ending extent flow.bytes, .empty)⟩

end LineShell.Machine
