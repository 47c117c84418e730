import LineShell.Error

/-!
# What a command answers

A command ends with an outcome or an error. A command that breaks down without either is contained:
its last words become an error like any other.
-/
namespace LineShell

/-- What a command hands back when it succeeds. -/
inductive Outcome where
  /-- Text, printed with a newline after it. -/
  | text (s : String)
  /-- Control sequences for the terminal, printed as they are. -/
  | raw (s : String)
  | silent
  | exit
  deriving Repr, DecidableEq

/-- An outcome or an error. -/
abbrev Report := Except ShellError Outcome

/-- How a command comes to its end. -/
inductive Completion where
  | finished (report : Report)
  /-- It broke down, with a message if it left one. -/
  | brokeDown (message : Option String)

/-- The report of a command however it ended. -/
def Completion.contain : Completion → Report
  | .finished report => report
  | .brokeDown message =>
    .error (.unexpected ("command panicked: " ++ message.getD "unknown panic"))

end LineShell
