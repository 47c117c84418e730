import LineShell.Command.Requote
import LineShell.Config
import LineShell.Outcome
import LineShell.System
import LineShell.Text.Blank

/-!
# Launchers

Two ways to run a program in the foreground. The native launcher starts it with the streams of the
shell. The subshell launcher hands the re-quoted line to the system's shell and takes what it
writes; whatever is written to its standard error makes the command count as not found.
-/
namespace LineShell

/-- How programs are run in the foreground. -/
inductive Launcher where
  | native
  | subshell
  deriving Repr, DecidableEq

namespace Launcher

def ofKind : LauncherKind → Launcher
  | .auto | .native => .native
  | .subshell => .subshell

def name : Launcher → String
  | .native => "native"
  | .subshell => "subshell"

/-- The command by which the system's shell runs a command. -/
def shellCommand (cmd : SimpleCommand) : SimpleCommand :=
  ⟨"sh", ["-c", cmd.shellLine]⟩

/-- Runs a command with the streams of the shell. -/
def runNative (sys : System σ) (dir : Path) (cmd : SimpleCommand) (world : World σ) :
    Except LaunchError String × World σ :=
  match sys.start cmd dir .shared world with
  | (.error e, world) => (.error (.ofSpawn cmd e), world)
  | (.ok pid, world) =>
    match sys.wait pid world with
    | (.error e, world) => (.error (.ofSpawn cmd e), world)
    | (.ok (), world) => (.ok "", world)

/-- Runs a command by way of the system's shell. -/
def runSubshell (sys : System σ) (dir : Path) (cmd : SimpleCommand) (world : World σ) :
    Except LaunchError String × World σ :=
  match sys.start (shellCommand cmd) dir ⟨.inherited, .piped, .piped⟩ world with
  | (.error e, world) => (.error (.spawn cmd.display e), world)
  | (.ok pid, world) =>
    match sys.collect pid world with
    | (.error e, world) => (.error (.spawn cmd.display e), world)
    | (.ok remains, world) =>
      let stdout := Utf8.lossy remains.output
      if remains.errors.isEmpty then (.ok stdout, world)
      else (.error (.commandNotFound cmd.display stdout (Utf8.lossy remains.errors)), world)

/-- Runs a command in a directory. The result is what it wrote, as far as that was taken. -/
def run (sys : System σ) (launcher : Launcher) (dir : Path) (cmd : SimpleCommand)
    (world : World σ) : Except LaunchError String × World σ :=
  match launcher with
  | .native => runNative sys dir cmd world
  | .subshell => runSubshell sys dir cmd world

/-- The outcome of a command that wrote a text. -/
def outcome (stdout : String) : Outcome :=
  if Text.trimEnd stdout = "" then .silent else .text (Text.trimEnd stdout)

end Launcher
end LineShell
