import LineShell.Execute

/-!
# Dispatching lines

A line is trimmed, read as a plan, and run. Whatever comes of it, the line goes into the history,
unless it is blank or leaves the shell.
-/
namespace LineShell

/-- What comes of a line. -/
inductive Dispatch where
  /-- The line was blank. -/
  | idle
  /-- Text to show, which may be empty. -/
  | report (text : String)
  /-- Control sequences to print as they are. -/
  | raw (text : String)
  | exit
  deriving Repr, DecidableEq

namespace Dispatch

/-- What comes of a line that was run, and the shell that has recorded it. -/
def conclude (line : String) (report : Report) (shell : Shell σ) : Dispatch × Shell σ :=
  let recorded := { shell with session := shell.session.record line }
  match report with
  | .ok .exit => (.exit, shell)
  | .ok (.text text) => (.report text, recorded)
  | .ok (.raw text) => (.raw text, recorded)
  | .ok .silent => (.report "", recorded)
  | .error e => (.report (shell.session.diagnose line e), recorded)

/-- Handles a line, given how plans are run. -/
def ofLineBy (run : Plan → Shell σ → Completion × Shell σ) (line : String) (shell : Shell σ) :
    Dispatch × Shell σ :=
  let line := Text.trim line
  if line = "" then (.idle, shell)
  else
    match Plan.parse line with
    | .error e => conclude line (.error (.parse e)) shell
    | .ok plan =>
      let (completion, shell) := run plan shell
      conclude line completion.contain shell

def ofLine (sys : System σ) (line : String) (shell : Shell σ) : Dispatch × Shell σ :=
  ofLineBy (fun plan shell =>
    let (result, shell) := plan.execute sys shell
    (.finished result, shell)) line shell

end Dispatch
end LineShell
