import LineShell.Builtin.Basic
import LineShell.FileSystem.Copy
import LineShell.FileSystem.Listing
import LineShell.Outcome

/-!
# Commands on files

What each command reports and what it does to the file system, given the working directory and its
arguments. Checks come before effects, and the first check that fails is reported.
-/
namespace LineShell.Builtin

/-- A report, and the file system after the command. -/
abbrev FileReport := Report × FileSystem

/-- The report on a change that should have succeeded. -/
def reportChange (text : String) : FileSystem.Change Unit → FileReport
  | (.ok (), fs) => (.ok (.text text), fs)
  | (.error e, fs) => (.error (.io e), fs)

/-- The place of the first argument, or of the working directory when there is none. -/
def placeOrHere (cwd : Path) (args : List String) : Path :=
  (args.head?.map (Path.resolve cwd)).getD cwd

/-- Runs a command on its first argument and the path which that names. -/
def withPath (b : Builtin) (cwd : Path) (args : List String) (fs : FileSystem)
    (run : String → Path → FileReport) : FileReport :=
  match b.required args with
  | .error e => (.error e, fs)
  | .ok name => run name (Path.resolve cwd name)

/-- The content of a file, without the blanks at its ends. -/
def runCat (cwd : Path) (args : List String) (fs : FileSystem) : FileReport :=
  withPath .cat cwd args fs fun name path =>
    match fs.readText path with
    | .ok content => (.ok (.text (Text.trim content)), fs)
    | .error e => (.error (if e.isNotFound then .pathNotFound "File" name else .io e), fs)

/-- The entries of a directory as they are shown: each name as text, and whether it is that of a
directory. They are sorted as they are shown, and of two that look alike the directory is last. -/
def shownEntries (entries : Entries) : List (String × Bool) :=
  (entries.map fun (name, node) => (Utf8.lossy name, node.isDir)).mergeSort fun a b =>
    decide (a.1 < b.1) || (a.1 == b.1 && (!a.2 || b.2))

/-- The names in a directory, those of directories painted. A link counts as what it is, not as
what it leads to. -/
def runLs (palette : Palette) (cwd : Path) (args : List String) (fs : FileSystem) : Report :=
  let dir := placeOrHere cwd args
  match fs.readDir dir with
  | .error e =>
    .error (if e.isNotFound then .pathNotFound "Directory" (Utf8.lossy dir) else .io e)
  | .ok entries =>
    .ok (.text ("\n".intercalate ((shownEntries entries).map fun (name, isDir) =>
      if isDir then palette.paint .purple name else name)))

/-- Makes a directory where nothing is. -/
def runMkdir (cwd : Path) (args : List String) (fs : FileSystem) : FileReport :=
  withPath .mkdir cwd args fs fun name path =>
    if fs.pathExists path then (.error (.alreadyExists "Directory" name), fs)
    else reportChange ("Directory " ++ name ++ " created successfully.") (fs.makeDir path)

/-- Makes an empty file where nothing is. -/
def runTouch (cwd : Path) (args : List String) (fs : FileSystem) : FileReport :=
  withPath .touch cwd args fs fun name path =>
    if fs.pathExists path then (.error (.alreadyExists "File" name), fs)
    else reportChange ("File " ++ name ++ " created successfully.") (fs.create path)

def runRm (cwd : Path) (args : List String) (fs : FileSystem) : FileReport :=
  withPath .rm cwd args fs fun name path =>
    if !fs.pathExists path then (.error (.pathNotFound "File" name), fs)
    else if fs.isDir path then
      (.error (.usage "rm removes files only; use rmdir <dir> for directories"), fs)
    else reportChange ("File " ++ name ++ " removed successfully.") (fs.removeFile path)

/-- Removes a directory with all that lies below it. -/
def runRmdir (cwd : Path) (args : List String) (fs : FileSystem) : FileReport :=
  withPath .rmdir cwd args fs fun name path =>
    if !fs.isDir path then (.error (.pathNotFound "Directory" name), fs)
    else reportChange ("Directory " ++ name ++ " removed successfully.") (fs.removeTree path)

/-- Where a source comes to stand: in the target if that is a directory, else in its place. -/
def destination (fs : FileSystem) (source target : Path) : Path :=
  match Path.fileName? source with
  | some name => if fs.isDir target then Path.join target name else target
  | none => target

/-- Runs a command on a source that is there and on the destination that goes with it. -/
def withDestination (b : Builtin) (cwd : Path) (args : List String) (fs : FileSystem)
    (run : Path → Path → FileReport) : FileReport :=
  withPath b cwd args fs fun name source =>
    if !fs.pathExists source then (.error (.pathNotFound "Source path" name), fs)
    else
      match args[1]? with
      | none => (.error (.usage "Enter destination path."), fs)
      | some target => run source (destination fs source (Path.resolve cwd target))

/-- Copies a file, or a directory to where nothing is. -/
def runCp (cwd : Path) (args : List String) (fs : FileSystem) : FileReport :=
  withDestination .cp cwd args fs fun source target =>
    if fs.isDir source then
      if fs.pathExists target then (.error (.alreadyExists "Directory" (Utf8.lossy target)), fs)
      else reportChange ("Directory copied to " ++ Utf8.lossy target) (fs.copyTree source target)
    else reportChange ("File copied to " ++ Utf8.lossy target) (fs.copyFile source target)

/-- Moves a file or a directory to where nothing is. -/
def runMv (cwd : Path) (args : List String) (fs : FileSystem) : FileReport :=
  withDestination .mv cwd args fs fun source target =>
    if fs.pathExists target then (.error (.alreadyExists "File" (Utf8.lossy target)), fs)
    else
      match (Path.parent? target).filter (!fs.isDir ·) with
      | some parent => (.error (.pathNotFound "Destination path" (Utf8.lossy parent)), fs)
      | none => reportChange ("File moved to " ++ Utf8.lossy target) (fs.rename source target)

/-- The directory that the shell works in after it was told to go to the first argument. -/
def runCd (cwd : Path) (args : List String) (fs : FileSystem) : Except ShellError Path :=
  match required .cd args with
  | .error e => .error e
  | .ok name =>
    match fs.canonical (Path.resolve cwd name) with
    | .error _ => .error (.pathNotFound "Path" name)
    | .ok full => if fs.isDir full then .ok full else .error (.pathNotFound "Path" name)

end LineShell.Builtin
