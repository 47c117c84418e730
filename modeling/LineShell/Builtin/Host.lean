import LineShell.Builtin.Basic
import LineShell.Memory.Report
import LineShell.System
import LineShell.Text.Pad

/-!
# Commands on the machine

Memory, disk, clock, and the programs of its desktop.
-/
namespace LineShell.Builtin

/-- The report on memory or on a disk; what is asked for is checked before it is measured. -/
def reportFigure (b : Builtin) (args : List String) (measure : Except ShellError Usage) :
    Report :=
  if (Figure.ofWord? args.head?).isNone then .error (.usage b.usage)
  else
    match measure with
    | .error e => .error e
    | .ok usage => usage.report args.head? b.usage

def measureMemory (sys : System σ) (world : World σ) : Except ShellError Usage :=
  match sys.memoryTable world with
  | .error e => .error (.io e)
  | .ok table =>
    match Usage.ofTable? table with
    | some usage => .ok usage
    | none => .error (.unexpected "unreadable /proc/meminfo")

def measureDisk (sys : System σ) (world : World σ) : Except ShellError Usage :=
  match sys.disk world with
  | .ok usage => .ok usage
  | .error e => .error (.io (.os e))

/-- A date with a time of day, the largest unit first. -/
def dateText (t : DateTime) : String :=
  Text.padNumber 4 t.year ++ "-" ++ Text.padNumber 2 t.month ++ "-" ++ Text.padNumber 2 t.day
    ++ " " ++ Text.padNumber 2 t.hour ++ ":" ++ Text.padNumber 2 t.minute ++ ":"
    ++ Text.padNumber 2 t.second

/-- Runs the editor on the first argument and waits for it. -/
def runNano (sys : System σ) (dir : Path) (args : List String) (world : World σ) :
    Report × World σ :=
  let editor : SimpleCommand := ⟨"nano", args.take 1⟩
  match sys.start editor dir .shared world with
  | (.error e, world) => (.error (.launch (.ofSpawn editor e)), world)
  | (.ok pid, world) =>
    match sys.wait pid world with
    | (.error e, world) => (.error (.launch (.ofSpawn editor e)), world)
    | (.ok (), world) => (.ok .silent, world)

/-- Hands the arguments to the program that opens files, and does not wait for it. -/
def runOpen (sys : System σ) (dir : Path) (args : List String) (world : World σ) :
    Report × World σ :=
  if args.isEmpty then (.error (.usage Builtin.openWith.usage), world)
  else
    let opener : SimpleCommand := ⟨"xdg-open", args⟩
    match sys.start opener dir .shared world with
    | (.error e, world) => (.error (.launch (.ofSpawn opener e)), world)
    | (.ok _, world) => (.ok .silent, world)

end LineShell.Builtin
