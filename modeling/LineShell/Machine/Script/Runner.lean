import LineShell.Machine.Tool.Arguments
import LineShell.Machine.Tool.Find

/-!
# Programs that run programs

The interpreter, and the tools that run what their words name.
-/
namespace LineShell.Machine.Script

def interpreters : List String := ["dash", "sh"]

/-- The options of the interpreter, and the words after them. -/
def interpreterOptions : List String → List Char × List String
  | [] => ([], [])
  | "--" :: rest | "-" :: rest => ([], rest)
  | word :: rest =>
    match word.toList with
    | '-' :: letters =>
      let (more, rest) := interpreterOptions rest
      (letters ++ more, rest)
    | _ => ([], word :: rest)

/-- The tools that run programs, by their names. -/
def runners : List (String × (Launch → Tool)) := [
  ("env", envTool),
  ("find", findTool),
  ("nice", niceTool),
  ("nohup", nohupTool),
  ("setsid", setsidTool),
  ("stdbuf", stdbufTool),
  ("timeout", timeoutTool),
  ("xargs", xargsTool)]

/-- The names of the programs that run programs. -/
def runnerNames : List String :=
  interpreters ++ runners.map (·.1)

end LineShell.Machine.Script
