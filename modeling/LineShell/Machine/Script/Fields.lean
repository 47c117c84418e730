import LineShell.FileSystem.Listing
import LineShell.Machine.Glob
import LineShell.Machine.Script.Grammar

/-!
# Fields

What words become once they are expanded: text that is cut into fields at blanks which no quotes
protect, and patterns that stand for the names of files.
-/
namespace LineShell.Machine.Script

/-- Fields in the making: those that are finished, the last first, and the one that is begun. -/
structure Fields where
  done : List (List Glyph)
  begun : Option (List Glyph)
  /-- Whether the last field was ended by a blank that may go with a separator after it. -/
  blank : Bool

namespace Fields

def empty : Fields := ⟨[], none, false⟩

/-- Adds text to the field that is begun. -/
def add (fields : Fields) (isProtected : Bool) (text : List Char) : Fields :=
  { fields with begun := some (fields.begun.getD [] ++ text.map (·, isProtected)) }

/-- Finishes the field that is begun. -/
def close (fields : Fields) : Fields :=
  match fields.begun with
  | none => fields
  | some field => ⟨field :: fields.done, none, false⟩

/-- Adds text that is cut at separators. A separator that is no blank ends a field even if that is
empty. -/
def addSplit (separators : List Char) : List Char → Fields → Fields
  | [], fields => fields
  | c :: cs, fields =>
    if separators.contains c then
      if [' ', '\t', '\n'].contains c then
        let blank := fields.begun.isSome || fields.blank
        addSplit separators cs { fields.close with blank }
      else if fields.blank && fields.begun.isNone then
        addSplit separators cs { fields with blank := false }
      else addSplit separators cs { (fields.add false []).close with blank := false }
    else addSplit separators cs (fields.add false [c])

/-- Adds texts as fields of their own, the first one joined to what is begun. -/
def addAll (fields : Fields) : List String → Fields
  | [] => fields
  | [last] => fields.add true last.toList
  | text :: rest => addAll (fields.add true text.toList).close rest

def toList (fields : Fields) : List (List Glyph) :=
  fields.close.done.reverse

/-- All text as one, with blanks between the fields. -/
def joined (fields : Fields) : List Glyph :=
  [((' ', true) : Glyph)].intercalate fields.toList

end Fields

/-- Whether there is something at a path, be it a link that leads nowhere. -/
def isEntry (fs : FileSystem) (path : Path) : Bool :=
  match fs.locate .keep path with
  | .ok (.found ..) => true
  | _ => false

/-- The paths of what the pieces of a pattern stand for, from the path before them; there is a
slash between two pieces. -/
def globPaths (fs : FileSystem) (cwd : Path) (begun : String) :
    List (List Glyph) → List String
  | [] => [begun]
  | piece :: rest =>
    let names :=
      if isPattern piece then
        match fs.readDir (if begun = "" then cwd else Raw.path cwd begun) with
        | .error _ => []
        | .ok entries =>
          let hidden := piece.head?.map (·.1) == some '.'
          ((Node.sortEntries entries).map (Raw.decode ·.1)).filter fun n =>
            (hidden || !n.startsWith ".") && matches? piece n
      else [plainText piece]
    if rest.isEmpty then
      (names.map (begun ++ ·)).filter fun path =>
        path.endsWith "/" || isEntry fs (Raw.path cwd path)
    else
      names.flatMap fun name =>
        let path := begun ++ name ++ "/"
        if fs.isDir (Raw.path cwd path) then globPaths fs cwd path rest else []

/-- The pieces of a pattern between its slashes. -/
def splitPattern (glyphs : List Glyph) : List (List Glyph) :=
  glyphs.splitOnP (·.1 == '/')

/-- What a field stands for: the paths that match it if it is a pattern and some do. -/
def globField (fs : FileSystem) (cwd : Path) (field : List Glyph) : List String :=
  if isPattern field then
    match globPaths fs cwd "" (splitPattern field) with
    | [] => [plainText field]
    | paths => paths
  else [plainText field]

end LineShell.Machine.Script
