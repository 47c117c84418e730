import LineShell.FileSystem.Access

/-!
# Changing files

Each operation gives its result together with the file system after it; when it fails, the file
system is the one before, except where the operation has several steps.
-/
namespace LineShell.FileSystem

/-- The outcome of an operation, and the file system after it. -/
abbrev Change (α : Type) := Except IoError α × FileSystem

/-- Opens a file for writing, making it if need be, and replaces what it holds by a function of
that. A new file has the given mode; `mode` changes that of an old one. A device takes what is
written and stays empty. -/
def update (fs : FileSystem) (path : Path) (content : Bytes → Bytes)
    (executable : Bool := false) (mode : Bool → Bool := id) : Change Unit :=
  match fs.locate .follow path with
  | .error e => (.error e, fs)
  | .ok (.missing dir name slash) =>
    if slash then (.error (.os .isDirectory), fs)
    else (.ok (), fs.put (dir ++ [name]) (.file (content []) executable))
  | .ok (.found place node last slash) =>
    if slash || last != .name then (.error (.os .isDirectory), fs)
    else
      match node with
      | .file old x => (.ok (), fs.put place (.file (content old) (mode x)))
      | .dir _ => (.error (.os .isDirectory), fs)
      | _ => (.ok (), fs)

/-- Makes an empty file, or empties the one that is there. -/
def create (fs : FileSystem) (path : Path) : Change Unit :=
  fs.update path fun _ => []

/-- Makes an empty directory where nothing is, not even a link. -/
def makeDir (fs : FileSystem) (path : Path) : Change Unit :=
  match fs.locate .keep path with
  | .error e => (.error e, fs)
  | .ok (.found ..) => (.error (.os .entryExists), fs)
  | .ok (.missing dir name _) => (.ok (), fs.put (dir ++ [name]) (.dir []))

/-- Removes an entry that is no directory. A link is removed itself. -/
def removeFile (fs : FileSystem) (path : Path) : Change Unit :=
  match fs.locate .keep path with
  | .error e => (.error e, fs)
  | .ok (.missing ..) => (.error (.os .noEntry), fs)
  | .ok (.found place node last slash) =>
    if last != .name || node.isDir then (.error (.os .isDirectory), fs)
    else if slash then (.error (.os .notDirectory), fs)
    else (.ok (), fs.erase place)

def removeDir (fs : FileSystem) (path : Path) : Change Unit :=
  match fs.locate .keep path with
  | .error e => (.error e, fs)
  | .ok (.missing ..) => (.error (.os .noEntry), fs)
  | .ok (.found _ _ .dot _) => (.error (.os .invalid), fs)
  | .ok (.found _ _ .dotDot _) => (.error (.os .notEmpty), fs)
  | .ok (.found _ _ .root _) => (.error (.os .busy), fs)
  | .ok (.found place node .name _) =>
    match node with
    | .dir [] => (.ok (), fs.erase place)
    | .dir _ => (.error (.os .notEmpty), fs)
    | _ => (.error (.os .notDirectory), fs)

/-- Removes a directory with all that lies below, following no link; a link to a directory is
removed itself. The content goes first, so that it is gone also when the directory cannot be
removed under the name that the path ends in; a path that leads nowhere after that is no fault. -/
def removeTree (fs : FileSystem) (path : Path) : Change Unit :=
  match fs.locate .followAtSlash path with
  | .error e => (.error e, fs)
  | .ok (.missing ..) => (.error (.os .noEntry), fs)
  | .ok (.found place node _ _) =>
    match node with
    | .link _ => (.ok (), fs.erase place)
    | .dir _ =>
      match (fs.put place (.dir [])).removeDir path with
      | (.error (.os .noEntry), emptied) => (.ok (), emptied)
      | change => change
    | _ => (.error (.os .notDirectory), fs)

/-- Whether a node may take the place of another that an entry names already. -/
def mayReplace : Node → Node → Except Errno Unit
  | .dir _, .dir [] => .ok ()
  | .dir _, .dir _ => .error .notEmpty
  | .dir _, _ => .error .notDirectory
  | _, .dir _ => .error .isDirectory
  | _, _ => .ok ()

/-- Moves an entry to another name. Neither name is followed if it is a link; what the new name
stands for is replaced if it may be. -/
def rename (fs : FileSystem) (source target : Path) : Change Unit :=
  match fs.locate .keep source, fs.locate .keep target with
  | .error e, _ => (.error e, fs)
  | _, .error e => (.error e, fs)
  | .ok (.found place node .name slash), .ok arrival =>
    let move (old : Option Node) (dest : Place) (destSlash : Bool) : Change Unit :=
      if !node.isDir && (slash || destSlash) then (.error (.os .notDirectory), fs)
      else if place.isPrefixOf dest && (node.isDir && place != dest) then (.error (.os .invalid), fs)
      else if dest.isPrefixOf place && place != dest then (.error (.os .notEmpty), fs)
      else if place == dest then (.ok (), fs)
      else
        match old.elim (.ok ()) (mayReplace node) with
        | .error e => (.error (.os e), fs)
        | .ok () => (.ok (), (fs.erase place).put dest node)
    match arrival with
    | .found dest old .name destSlash => move (some old) dest destSlash
    | .found .. => (.error (.os .busy), fs)
    | .missing dir name destSlash => move none (dir ++ [name]) destSlash
  | .ok (.found ..), .ok _ => (.error (.os .busy), fs)
  | .ok (.missing ..), .ok (.found _ _ .name _) => (.error (.os .noEntry), fs)
  | .ok (.missing ..), .ok (.missing ..) => (.error (.os .noEntry), fs)
  | .ok (.missing ..), .ok (.found ..) => (.error (.os .busy), fs)

/-- Copies the content and the mode of a file. The target is emptied when it is opened, so a file
that is copied onto itself loses its content. -/
def copyFile (fs : FileSystem) (source target : Path) : Change Unit :=
  match fs.resolve source with
  | .error e => (.error e, fs)
  | .ok (place, .file _ executable) =>
    match fs.update target (fun _ => []) executable (fun _ => executable) with
    | (.error e, fs) => (.error e, fs)
    | (.ok (), emptied) =>
      match emptied.node? place with
      | some (.file content _) => emptied.update target (· ++ content)
      | _ => (.ok (), emptied)
  | .ok _ => (.error .notRegular, fs)

end LineShell.FileSystem
