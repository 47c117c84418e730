import LineShell.FileSystem.Access
import LineShell.Input.Line

/-!
# Completing paths

A word is completed by the entries of the directory that it names up to its last slash, or of the
working directory. Directories, and links to them, get a slash.
-/
namespace LineShell.Input

/-- A word up to its last slash, and what follows it. -/
def splitLastSlash (word : List Char) : List Char × List Char :=
  let name := (word.reverse.takeWhile (· != '/')).reverse
  (word.take (word.length - name.length), name)

/-- An entry of a directory as it is read: the bytes of its name, and whether its path leads to a
directory. -/
structure Listed where
  name : Name
  isDir : Bool
  deriving Repr, DecidableEq

/-- What an entry completes a word to, given the word up to its last slash and what follows it. The
name has to be text. -/
def candidate? (dirPart start : List Char) (entry : Listed) : Option String := do
  let name ← Utf8.decode? entry.name
  if start.isPrefixOf name.toList then
    return String.ofList dirPart ++ name ++ if entry.isDir then "/" else ""
  else none

/-- What entries complete a word to, in order. -/
def candidates (dirPart start : List Char) (entries : List Listed) : List String :=
  (entries.filterMap (candidate? dirPart start)).mergeSort fun a b => decide (a ≤ b)

/-- The entries of the directory that a path leads to, in the order in which it yields them. -/
def listed (fs : FileSystem) (dir : Path) : Except IoError (List Listed) :=
  (fs.readDir dir).map fun entries =>
    entries.map fun (name, _) => ⟨name, fs.isDir (Path.join dir name)⟩

def completePath (fs : FileSystem) (cwd : Path) (word : List Char) : List String :=
  let (dirPart, start) := splitLastSlash word
  match listed fs (Path.resolve cwd (String.ofList dirPart)) with
  | .error _ => []
  | .ok entries => candidates dirPart start entries

/-- Where the word at a byte offset of a line starts, and its completions. -/
def complete (fs : FileSystem) (cwd : Path) (line : List Char) (pos : Nat) : Nat × List String :=
  let start := wordStart line pos
  (start, completePath fs cwd (Text.slice line start pos))

end LineShell.Input
