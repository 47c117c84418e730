import LineShell.Builtin.Files

/-!
# The tree of a directory

A line for every entry below a directory, indented by its depth: a directory comes before what lies
below it, and a link to a directory counts as the directory.
-/
namespace LineShell.Builtin

/-- What the names in a directory are indented by, beyond its own indent. -/
def treeIndent : String := "-------"

def treeHeading (palette : Palette) (indent : String) (dir : Path) : String :=
  palette.paint .cyan indent ++ palette.paint .purple (Utf8.lossy ((Path.fileName? dir).getD dir))
    ++ "/"

/-- The lines of entries of `dir`, those that lead to directories by means of `subtree`. -/
def treeEntries (subtree : Path → List String) (palette : Palette) (fs : FileSystem)
    (indent : String) (dir : Path) (entries : Entries) : List String :=
  entries.flatMap fun (name, _) =>
    let path := Path.join dir name
    if fs.isDir path then subtree path else [palette.paint .cyan indent ++ Utf8.lossy name]

/-- The lines of a directory and of what lies at most `depth` levels below. -/
def treeLevels (palette : Palette) (fs : FileSystem) : Nat → String → Path → List String
  | 0, _, _ => []
  | depth + 1, indent, dir =>
    let inner := indent ++ treeIndent
    treeHeading palette indent dir ::
      match fs.readDir dir with
      | .error e => if e.isPermissionDenied then [inner ++ "[Permission Denied]"] else []
      | .ok entries =>
        treeEntries (treeLevels palette fs depth inner) palette fs inner dir
          (Node.sortEntries entries)

/-- The tree below a directory. Every level makes the path longer, so there are no more levels
than a path has bytes. -/
def runTree (palette : Palette) (cwd : Path) (args : List String) (fs : FileSystem) : Report :=
  let dir := placeOrHere cwd args
  if fs.isDir dir then
    .ok (.text ("\n".intercalate (treeLevels palette fs (Path.maxLength + 1) "" dir)))
  else .error (.pathNotFound "Path" (Utf8.lossy dir))

end LineShell.Builtin
