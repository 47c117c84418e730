import LineShell.Error
import LineShell.System
import LineShell.Text.Blank

/-!
# Pipelines

Every stage is a child of its own. The first one reads what the shell reads, every other one what
the stage before it writes, and what the last one writes is the result. If a stage cannot be
started, all that were started are killed.
-/
namespace LineShell.Pipeline

/-- Why a pipeline did not start: the place of a stage, its program, and the cause. -/
structure Fault where
  stage : Nat
  program : String
  cause : IoError
  deriving Repr, DecidableEq

/-- Starts stages in order, up to the first that cannot be started. Gives the children, and the
fault if there is one; `index` is the place of the first stage. -/
def start (sys : System σ) (dir : Path) (index : Nat) (input : InputFrom) :
    List SimpleCommand → World σ → (List Pid × Option Fault) × World σ
  | [], world => (([], none), world)
  | stage :: rest, world =>
    match sys.start stage dir ⟨input, .piped, .inherited⟩ world with
    | (.error cause, world) => (([], some ⟨index, stage.program, cause⟩), world)
    | (.ok pid, world) =>
      let ((pids, fault), world) := start sys dir (index + 1) (.outputOf pid) rest world
      ((pid :: pids, fault), world)

/-- Kills children in order. A failure to do so is passed over. -/
def killAll (sys : System σ) (pids : List Pid) (world : World σ) : World σ :=
  pids.foldl (fun world pid => (sys.kill pid world).2) world

/-- Waits for children in order. A failure to do so is passed over. -/
def waitAll (sys : System σ) (pids : List Pid) (world : World σ) : World σ :=
  pids.foldl (fun world pid => (sys.wait pid world).2) world

/-- Runs a pipeline in a directory. The result is what the last stage wrote, as text without the
blanks at its end. -/
def run (sys : System σ) (dir : Path) (stages : List SimpleCommand) (world : World σ) :
    Except ShellError String × World σ :=
  let ((pids, fault), world) := start sys dir 0 .inherited stages world
  match fault with
  | some fault =>
    (.error (.pipelineLaunch fault.stage fault.program fault.cause), killAll sys pids world)
  | none =>
    match pids.getLast? with
    | none => (.ok "", world)
    | some last =>
      match sys.collect last world with
      | (.error e, world) => (.error (.io e), world)
      | (.ok remains, world) =>
        (.ok (Text.trimEnd (Utf8.lossy remains.output)), waitAll sys pids.dropLast world)

end LineShell.Pipeline
