import LineShell.Builtin.Basic
import LineShell.Command.Jobs
import LineShell.Text.Pad

/-!
# Lists that commands print

The help table, the job table, and the history.
-/
namespace LineShell.Builtin

/-- What the help command says about words and signs that are no built-in commands. -/
def furtherHelp : List (String × String) :=
  [("sleep", HowTo.sleep), ("|", HowTo.pipe), ("&", HowTo.background)]

def helpEntries : List (String × String) :=
  all.map (fun b => (b.name, b.usage)) ++ furtherHelp

def helpLine (palette : Palette) (entry : String × String) : String :=
  "- " ++ palette.paint .yellow (Text.padEnd 10 entry.1) ++ " : "
    ++ palette.paint .purple entry.2

def helpText (palette : Palette) : String :=
  "\n".intercalate
    (palette.paint .cyan "Available Commands:" :: helpEntries.map (helpLine palette))

def jobsText (jobs : Jobs) : String :=
  "\n".intercalate (jobs.map Job.display)

def historyText (history : List String) : String :=
  "\n".intercalate history

end LineShell.Builtin
