import LineShell.Error
import LineShell.Process.Stat
import LineShell.System
import LineShell.Text.Lowercase
import LineShell.Text.Numeral

/-!
# Looking for processes

The processes of a system in the order of their ids, and the first of them whose name holds a given
text in whatever case.
-/
namespace LineShell

namespace System

def stat (sys : System σ) (pid : Pid) (world : World σ) : Option ProcessInfo × World σ :=
  let (line, world) := sys.statLine pid world
  (line.bind ProcessInfo.ofStat?, world)

/-- The status of each process that is there when it is asked for. -/
def statAll (sys : System σ) : List Pid → World σ → List ProcessInfo × World σ
  | [], world => ([], world)
  | pid :: rest, world =>
    let (found, world) := stat sys pid world
    let (others, world) := statAll sys rest world
    (found.toList ++ others, world)

end System

/-- The process id that a name in the directory of processes stands for. -/
def pidOfName? (name : String) : Option Pid :=
  Numeral.readSigned? (Nat.pow 2 31) name.toList

def occursIn (needle : List Char) : List Char → Bool
  | [] => needle.isEmpty
  | c :: cs => needle.isPrefixOf (c :: cs) || occursIn needle cs

/-- Whether a process goes by a name: the text occurs in its own name in whatever case. -/
def ProcessInfo.goesBy (process : ProcessInfo) (needle : String) : Bool :=
  occursIn (Text.lower needle.toList) (Text.lower process.name.toList)

namespace System

/-- Every process, in the order of the ids. -/
def processes (sys : System σ) (world : World σ) : Except ShellError (List ProcessInfo) × World σ :=
  match sys.processNames world with
  | (.error e, world) => (.error (.io e), world)
  | (.ok names, world) =>
    let (found, world) := statAll sys (names.filterMap pidOfName?) world
    (.ok (found.mergeSort fun a b => decide (a.pid ≤ b.pid)), world)

/-- The first process that goes by a name, the shell itself left out. -/
def findByName (sys : System σ) (needle : String) (world : World σ) :
    Except ShellError (Option ProcessInfo) × World σ :=
  match processes sys world with
  | (.error e, world) => (.error e, world)
  | (.ok processes, world) =>
    (.ok (processes.find? fun p => p.pid != sys.ownPid && p.goesBy needle), world)

end System
end LineShell
