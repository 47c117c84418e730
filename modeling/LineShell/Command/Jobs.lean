import LineShell.Diagnostic
import LineShell.System

/-!
# Background jobs

A job table lists every command that was started in the background, in the order of the starts.
Nothing ever leaves it.
-/
namespace LineShell

structure Job where
  pid : Pid
  command : String
  deriving Repr, DecidableEq

abbrev Jobs := List Job

namespace Job

/-- Whether arguments tell how long to sleep: one run of ASCII digits. -/
def isDuration : List String → Bool
  | [word] => word ≠ "" && word.toList.all Char.isDigit
  | _ => false

def launch (sys : System σ) (dir : Path) (cmd : SimpleCommand) (world : World σ) :
    Except LaunchError Job × World σ :=
  if cmd.program = "sleep" && !isDuration cmd.args then
    (.error (.invalidArguments cmd.program HowTo.sleep), world)
  else
    match sys.start cmd dir .shared world with
    | (.error e, world) => (.error (.ofSpawn cmd e), world)
    | (.ok pid, world) => (.ok ⟨pid, cmd.display⟩, world)

def display (job : Job) : String :=
  s!"[{job.pid}] " ++ job.command

def announcement (job : Job) : String :=
  s!"[{job.pid}] Running in background: " ++ job.command

end Job
end LineShell
