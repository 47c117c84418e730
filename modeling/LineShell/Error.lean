import LineShell.Command.Parse
import LineShell.IoError
import LineShell.Text.Escape

/-!
# What goes wrong with a command

Every way in which a line fails, with its wording. Some errors are followed by a pointer to the
help command.
-/
namespace LineShell

/-- Why a command did not run, or counts as not having run. -/
inductive LaunchError where
  /-- There is no such program, or what ran wrote to its standard error. -/
  | commandNotFound (command stdout stderr : String)
  | spawn (command : String) (cause : IoError)
  | invalidArguments (program usage : String)
  deriving Repr, DecidableEq

namespace LaunchError

/-- The error for a command that could not be started. -/
def ofSpawn (command : SimpleCommand) (cause : IoError) : LaunchError :=
  if cause.isNotFound then .commandNotFound command.display "" ""
  else .spawn command.display cause

def command : LaunchError → String
  | .commandNotFound command _ _ | .spawn command _ => command
  | .invalidArguments program _ => program

def message : LaunchError → String
  | .commandNotFound command _ _ => command ++ ": command not found."
  | .spawn _ cause => "Error executing command: " ++ cause.message
  | .invalidArguments program _ => "invalid arguments for " ++ program

end LaunchError

/-- Why a line failed. -/
inductive ShellError where
  | parse (cause : ParseError)
  | pathNotFound (kind name : String)
  | alreadyExists (kind name : String)
  | launch (cause : LaunchError)
  | pipelineLaunch (stage : Nat) (program : String) (cause : IoError)
  | permission (subject : String)
  | timeout (pid : Int)
  | noSuchProcess (pid : Int)
  | noMatchingProcess (name : String)
  | unsupportedRedirection (command : String)
  /-- A command was called wrongly; the text tells how to call it. -/
  | usage (text : String)
  | unsupported (subject : String)
  | escape (cause : EscapeError)
  | io (cause : IoError)
  | unexpected (text : String)
  deriving Repr, DecidableEq

namespace ShellError

/-- The error for a request that the operating system refused. A number without a wording of its
own is not kept. -/
def ofErrno (e : Errno) : ShellError :=
  .io (.os e.orUnknown)

def message : ShellError → String
  | .parse cause => "syntax error: " ++ cause.message
  | .pathNotFound kind name => kind ++ " " ++ name ++ " does not exist."
  | .alreadyExists kind name => kind ++ " " ++ name ++ " already exists."
  | .launch cause => cause.message
  | .pipelineLaunch stage program cause =>
    s!"pipeline stage {stage} (" ++ program ++ ") failed to start: " ++ cause.message
  | .permission subject => "Access denied: " ++ subject ++ "."
  | .timeout pid =>
    s!"Process {pid} did not terminate in time, trying to kill it forcefully..."
  | .noSuchProcess pid => s!"No process with PID {pid} found."
  | .noMatchingProcess name => "No process matching " ++ name ++ " found."
  | .unsupportedRedirection command =>
    "Redirection with >, >>, or < is supported for echo only (got " ++ command ++ ")."
  | .usage text => text
  | .unsupported subject => subject ++ " is not supported on this platform."
  | .escape cause => cause.message
  | .io cause => cause.message
  | .unexpected text => text

/-- Whether a pointer to the help command follows. -/
def wantsHelpHint : ShellError → Bool
  | .parse _ | .launch _ | .io _ | .unexpected _ => true
  | _ => false

end ShellError
end LineShell
