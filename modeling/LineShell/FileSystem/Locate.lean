import LineShell.FileSystem.Node
import LineShell.IoError

/-!
# Finding the place that a path names

A path is followed name by name from the root. A symbolic link on the way is replaced by its
target; a limit on the number of links makes every walk end. What happens to a link in the last
position depends on what the path is wanted for.
-/
namespace LineShell

namespace Path

/-- The names between the slashes of a path. -/
def names (path : Path) : List Name :=
  (splitSlash path).filter (· ≠ [])

/-- Whether a path ends in a slash, which it may only do if it names a directory. -/
def endsInSlash (path : Path) : Bool :=
  path.getLast? == some slash

/-- The longest path, in bytes. -/
def maxLength : Nat := 4095

/-- The longest name, in bytes. -/
def maxNameLength : Nat := 255

end Path

/-- What a walk does with a link in the last position. -/
inductive LastLink where
  /-- Follow it, as for reading and writing. -/
  | follow
  /-- Follow it only when a slash comes after it, as for a look at the entry itself. -/
  | followAtSlash
  /-- Do not follow it, as for removing or renaming an entry. -/
  | keep
  deriving Repr, DecidableEq

/-- What the last step of a path was. -/
inductive LastStep where
  | root
  | dot
  | dotDot
  | name
  deriving Repr, DecidableEq

/-- Where a walk ends. -/
inductive Arrival where
  /-- At a node. -/
  | found (place : Place) (node : Node) (last : LastStep) (slash : Bool)
  /-- At a directory that has no entry of the last name. -/
  | missing (dir : Place) (name : Name) (slash : Bool)

namespace FileSystem

/-- The number of symbolic links that one walk may follow. -/
def maxLinks : Nat := 40

/-- Follows names from a place. At most `links` symbolic links are followed; `slash` tells whether
a slash comes after the last name. -/
def walk (fs : FileSystem) (lastLink : LastLink) (links : Nat) (here : Place)
    (todo : List Name) (slash : Bool) : Except Errno Arrival :=
  match fs.node? here with
  | none => .error .noEntry
  | some node =>
    match todo with
    | [] => .ok (.found here node .root slash)
    | name :: rest =>
      if !node.isDir then .error .notDirectory
      else if name = [Path.dot] then
        if rest.isEmpty then .ok (.found here node .dot slash)
        else fs.walk lastLink links here rest slash
      else if name = [Path.dot, Path.dot] then
        if rest.isEmpty then
          match fs.node? here.dropLast with
          | none => .error .noEntry
          | some parent => .ok (.found here.dropLast parent .dotDot slash)
        else fs.walk lastLink links here.dropLast rest slash
      else if Path.maxNameLength < name.length then .error .nameTooLong
      else
        match node.get? [name] with
        | none => if rest.isEmpty then .ok (.missing here name slash) else .error .noEntry
        | some (.link target) =>
          if !rest.isEmpty || lastLink == .follow || (lastLink == .followAtSlash && slash) then
            match links with
            | 0 => .error .linkLoop
            | links + 1 =>
              fs.walk lastLink links (if Path.isAbsolute target then [] else here)
                (Path.names target ++ rest) (slash || (rest.isEmpty && Path.endsInSlash target))
          else .ok (.found (here ++ [name]) (.link target) .name slash)
        | some child =>
          if rest.isEmpty then .ok (.found (here ++ [name]) child .name slash)
          else fs.walk lastLink links (here ++ [name]) rest slash
termination_by (links, todo.length)

/-- Where a path of any length leads. Paths start at the root. -/
def trace (fs : FileSystem) (lastLink : LastLink) (path : Path) : Except IoError Arrival :=
  if path.contains 0 then .error .nulInPath
  else if path.isEmpty then .error (.os .noEntry)
  else
    match fs.walk lastLink maxLinks [] (Path.names path) (Path.endsInSlash path) with
    | .ok arrival => .ok arrival
    | .error e => .error (.os e)

/-- Where a path leads, if it is not too long. -/
def locate (fs : FileSystem) (lastLink : LastLink) (path : Path) : Except IoError Arrival :=
  if !path.contains 0 && Path.maxLength < path.length then
    .error (.os .nameTooLong)
  else fs.trace lastLink path

end FileSystem
end LineShell
