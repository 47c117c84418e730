import LineShell.Command.Jobs
import LineShell.Command.Launcher

/-!
# Sessions

What a shell remembers from one line to the next.
-/
namespace LineShell

/-- The state of a shell. -/
structure Session where
  config : Config
  palette : Palette
  workingDir : Path
  /-- The lines that were entered, the oldest first. -/
  history : List String
  jobs : Jobs
  launcher : Launcher
  user : String
  host : String
  /-- The home directory of the user. -/
  home : Option Path
  deriving Repr, DecidableEq

namespace Session

/-- A new session for a user; `terminal` tells whether the output is a terminal. -/
def start (config : Config) (terminal : Bool) (workingDir : Path) (user host : String)
    (home : Option Path) : Session :=
  { config
    palette := .ofMode terminal config.color
    workingDir
    history := []
    jobs := []
    launcher := .ofKind config.launcher
    user
    host
    home }

def record (session : Session) (line : String) : Session :=
  { session with history := session.history ++ [line] }

/-- The working directory as the prompt shows it. -/
def shortDir (session : Session) : String :=
  Path.abbreviate (session.config.tilde session.home) session.workingDir

/-- The line above the prompt, with an empty one before it. -/
def header (session : Session) : String :=
  let paint := session.palette.paint
  "\n" ++ paint .green (session.user ++ "@" ++ session.host) ++ " "
    ++ paint .purple session.config.shellName ++ " " ++ paint .yellow session.shortDir ++ "\n"

/-- The words at the end of a session. -/
def farewell (session : Session) : String :=
  session.palette.paint .cyan ("Exiting " ++ session.config.shellName ++ ". Goodbye!")

def diagnose (session : Session) (line : String) (e : ShellError) : String :=
  Diagnostic.render session.palette session.config.shellName line e

end Session

/-- A session and the world that it lives in. -/
structure Shell (σ : Type) where
  session : Session
  world : World σ

end LineShell
