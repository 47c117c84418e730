import LineShell.FileSystem.Locate

/-!
# Looking at files

What is at a path, what a file holds, and what a directory lists. Links are followed.
-/
namespace LineShell.FileSystem

/-- The node that a path arrives at, and its place. A slash at the end asks for a directory. -/
def ofArrival : Arrival → Except IoError (Place × Node)
  | .found place node _ slash =>
    if slash && !node.isDir then .error (.os .notDirectory) else .ok (place, node)
  | .missing .. => .error (.os .noEntry)

/-- The node that a path leads to, and its place. -/
def resolve (fs : FileSystem) (path : Path) : Except IoError (Place × Node) := do
  ofArrival (← fs.locate .follow path)

/-- Whether a path leads to a node. A path that cannot be followed leads to none. -/
def pathExists (fs : FileSystem) (path : Path) : Bool :=
  (fs.resolve path).toOption.isSome

def isDir (fs : FileSystem) (path : Path) : Bool :=
  match fs.resolve path with
  | .ok (_, node) => node.isDir
  | .error _ => false

def isFile (fs : FileSystem) (path : Path) : Bool :=
  match fs.resolve path with
  | .ok (_, node) => node.isFile
  | .error _ => false

/-- What can be read at a path. -/
def read (fs : FileSystem) (path : Path) : Except IoError Bytes := do
  match ← fs.resolve path with
  | (_, .file content _) => .ok content
  | (_, .dir _) => .error (.os .isDirectory)
  | _ => .ok []

def readText (fs : FileSystem) (path : Path) : Except IoError String := do
  match Utf8.decode? (← fs.read path) with
  | some text => .ok text
  | none => .error .notUtf8

def readDir (fs : FileSystem) (path : Path) : Except IoError Entries := do
  match ← fs.resolve path with
  | (_, .dir es) => .ok es
  | _ => .error (.os .notDirectory)

/-- The path without links of the node that a path leads to. It is followed a name at a time, so
that its length does not matter. -/
def canonical (fs : FileSystem) (path : Path) : Except IoError Path := do
  let (place, _) ← ofArrival (← fs.trace .follow path)
  return place.path

end LineShell.FileSystem
