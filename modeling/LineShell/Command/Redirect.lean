import LineShell.Command.Plan
import LineShell.Error
import LineShell.FileSystem.Change

/-!
# Redirections

Only the echo command may be redirected. A text that cannot be decoded is refused before any file
is touched, so a redirection that fails changes nothing.
-/
namespace LineShell.Redirection

/-- Puts a text that is written by a redirection, with a newline after it, into a file. -/
def write (fs : FileSystem) (path : Path) (mode : RedirectMode) (text : String) :
    FileSystem.Change Unit :=
  let line := Utf8.encode (text ++ "\n")
  match mode with
  | .append => fs.update path (· ++ line)
  | _ => fs.update path fun _ => line

/-- Applies a redirection in a directory. Reading gives the content of the file without the
blanks at its end. -/
def apply (redirection : Redirection) (cwd : Path) (fs : FileSystem) :
    Except ShellError (Option String) × FileSystem :=
  let path := Path.resolve cwd redirection.target
  if redirection.command.program != "echo" then
    (.error (.unsupportedRedirection redirection.command.program), fs)
  else
    match redirection.mode with
    | .readFrom =>
      match fs.readText path with
      | .ok content => (.ok (some (Text.trimEnd content)), fs)
      | .error e =>
        if e.isNotFound then (.error (.pathNotFound "Input file" redirection.target), fs)
        else (.error (.io e), fs)
    | mode =>
      match unescape redirection.text with
      | .error e => (.error (.escape e), fs)
      | .ok text =>
        match write fs path mode text with
        | (.ok (), fs) => (.ok none, fs)
        | (.error e, fs) => (.error (.io e), fs)

end LineShell.Redirection
