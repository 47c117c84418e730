import LineShell.Error
import LineShell.Style
import LineShell.Text.Blank

/-!
# Diagnostics

An error as it is shown for a line: its message in red, what the failing command printed, how to
call it, and a pointer to the help command where there is reason for one.
-/
namespace LineShell

namespace HowTo

def pipe : String :=
  "Usage: <cmd1> | <cmd2> Pipe output of one command as input to another."

def echo : String :=
  "Print text or redirect: echo \"text\" > file (overwrite), echo \"text\" >> file (append), "
    ++ "echo < file (read input)"

def sleep : String :=
  "Pause execution for given duration in background (<sleep 5 &>)"

def background : String :=
  "Usage: <command> & Run a command in the background."

end HowTo

def helpHint : String := "Type 'help' to check valid commands."

namespace Diagnostic

/-- A text without the blanks at its end as a line of its own, or nothing if it is blank. -/
def trimmedLine (s : String) : List String :=
  if Text.trimEnd s = "" then [] else [Text.trimEnd s]

/-- The lines shown for an error before any pointer to help. -/
def body (palette : Palette) (shell line : String) (e : ShellError) : List String :=
  match e with
  | .launch (.commandNotFound command stdout _) =>
    trimmedLine stdout ++ [palette.paint .red (shell ++ ": " ++ command ++ ": command not found.")]
  | .launch (.spawn command _) =>
    [palette.paint .red e.message, shell ++ ": " ++ command ++ ": command not found."]
  | .launch (.invalidArguments _ usage) | .usage usage => [palette.paint .red usage]
  | .pipelineLaunch .. => [palette.paint .red e.message, palette.paint .red HowTo.pipe]
  | .unsupportedRedirection _ => [palette.paint .red e.message, palette.paint .red HowTo.echo]
  | .parse _ => [palette.paint .red (shell ++ ": " ++ line ++ ": " ++ e.message)]
  | .unexpected _ | .io _ => [palette.paint .red ("Error: " ++ e.message)]
  | _ => [palette.paint .red e.message]

/-- The pointer to help. It stands in every diagnostic for a command that is not found, and in none
that shows a usage; only the other errors are asked whether they want it. -/
def hint (palette : Palette) (e : ShellError) : List String :=
  match e with
  | .launch (.commandNotFound ..) => [palette.paint .purple helpHint]
  | .launch (.invalidArguments ..) | .usage _ => []
  | _ => if e.wantsHelpHint then [palette.paint .purple helpHint] else []

/-- What a command that counts as not found wrote to its standard error. -/
def complaint (palette : Palette) : ShellError → List String
  | .launch (.commandNotFound _ _ stderr) => (trimmedLine stderr).map (palette.paint .purple)
  | _ => []

def render (palette : Palette) (shell line : String) (e : ShellError) : String :=
  "\n".intercalate (body palette shell line e ++ hint palette e ++ complaint palette e)

end Diagnostic
end LineShell
