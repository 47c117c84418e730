import LineShell.FileSystem.Change

/-!
# Copying directories

A directory is copied entry by entry, each directory before what lies below it. The first entry
that cannot be copied ends the copy; what was copied before it stays.
-/
namespace LineShell.FileSystem

/-- Makes a directory, and those above it that are missing. A directory that is there already is
left alone. -/
def makeDirAll (fs : FileSystem) (path : Path) : Change Unit :=
  if (Path.components path).isEmpty then (.ok (), fs)
  else
    match fs.makeDir path with
    | (.ok (), fs) => (.ok (), fs)
    | (.error e, fs) =>
      if e.isNotFound then
        match h : Path.parent? path with
        | none => (.error .noParent, fs)
        | some parent =>
          have := Path.length_parent?_lt h
          match fs.makeDirAll parent with
          | (.error e, fs) => (.error e, fs)
          | (.ok (), fs) =>
            match fs.makeDir path with
            | (.ok (), fs) => (.ok (), fs)
            | (.error e, fs) => if fs.isDir path then (.ok (), fs) else (.error e, fs)
      else if fs.isDir path then (.ok (), fs)
      else (.error e, fs)
termination_by path.length

/-- Copies entries of `source` into `target`, directories by means of `copyDir`. -/
def copyEntries (copyDir : FileSystem → Path → Path → Change Unit) (source target : Path) :
    FileSystem → Entries → Change Unit
  | fs, [] => (.ok (), fs)
  | fs, (name, node) :: rest =>
    let copy := if node.isDir then copyDir else copyFile
    match copy fs (Path.join source name) (Path.join target name) with
    | (.error e, fs) => (.error e, fs)
    | (.ok (), fs) => copyEntries copyDir source target fs rest

/-- Copies a directory with all that lies at most `depth` levels below. -/
def copyLevels : Nat → FileSystem → Path → Path → Change Unit
  | 0, fs, _, _ => (.error (.os .nameTooLong), fs)
  | depth + 1, fs, source, target =>
    match fs.makeDirAll target with
    | (.error e, fs) => (.error e, fs)
    | (.ok (), fs) =>
      match fs.readDir source with
      | .error e => (.error e, fs)
      | .ok entries => copyEntries (copyLevels depth) source target fs entries

/-- Copies a directory with all that lies below. Every level makes the path longer, so there are
no more levels than a path has bytes. -/
def copyTree (fs : FileSystem) (source target : Path) : Change Unit :=
  copyLevels (Path.maxLength + 1) fs source target

end LineShell.FileSystem
