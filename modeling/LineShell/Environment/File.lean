import LineShell.Environment.Definition
import LineShell.FileSystem.Access

/-!
# Files of variables

A file defines variables, one a line; a quote that is open at the end of a line goes on in the next
one. The first line that is no definition ends the reading. What the environment has already stays
as it is. An environment cannot hold a value with a NUL in it.
-/
namespace LineShell.Environment

/-- How far into a line a reader has got, as far as that tells whether the line goes on. -/
inductive LineMode where
  | complete
  | blank
  | escape
  | strong
  | strongEscape
  | weak
  | weakEscape

/-- The mode after a character outside quotes. -/
def LineMode.opened (c : Char) : LineMode :=
  if c = '\\' then .escape
  else if c = '"' then .weak
  else if c = '\'' then .strong
  else .complete

def LineMode.next (c : Char) : LineMode → LineMode
  | .complete =>
    if Text.isBlank c && c != '\n' && c != '\r' then .blank else .opened c
  | .blank => .opened c
  | .escape => .complete
  | .strong => if c = '\\' then .strongEscape else if c = '\'' then .complete else .strong
  | .strongEscape => .strong
  | .weak => if c = '\\' then .weakEscape else if c = '"' then .complete else .weak
  | .weakEscape => .weak

/-- The mode at the end of a line, or the place where a comment begins. -/
def lineMode : LineMode → Nat → List Char → Except Nat LineMode
  | mode, _, [] => .ok mode
  | .blank, index, '#' :: _ => .error index
  | mode, index, c :: cs => lineMode (mode.next c) (index + 1) cs

/-- The lines of a text, each with its line feed. -/
def physicalLines (s : List Char) : List (List Char) :=
  let pieces := s.splitOn '\n'
  let closed := pieces.dropLast.map (· ++ ['\n'])
  match pieces.getLast? with
  | none | some [] => closed
  | some last => closed ++ [last]

def withoutLineEnd (line : List Char) : List Char :=
  if line.getLast? = some '\n' then
    let line := line.dropLast
    if line.getLast? = some '\r' then line.dropLast else line
  else line

/-- The lines of a text where quotes join them: those that are whole. `begun` is what was
read of a line that goes on, and `mode` how far that got; a line that never ends is left out. -/
def logicalLines (mode : LineMode) (begun : List Char) : List (List Char) → List (List Char)
  | [] => []
  | line :: rest =>
    let whole := begun ++ line
    if (Text.trimStartChars whole).head? = some '#' then [] :: logicalLines .complete [] rest
    else
      match lineMode mode 0 line with
      | .error index => (begun ++ line.take index) :: logicalLines .complete [] rest
      | .ok .complete => withoutLineEnd whole :: logicalLines .complete [] rest
      | .ok mode => logicalLines mode whole rest

/-- The environment with the definitions in lines added, up to the first line that is none. There
is no result if a value cannot be held. -/
def addLines? (env : Environment) (defined : Defined) : List (List Char) → Option Environment
  | [] => some env
  | line :: rest =>
    match definition? env defined line with
    | none => some env
    | some none => addLines? env defined rest
    | some (some (name, value)) =>
      if (env.get? name).isNone && value.toList.contains '\x00' then none
      else addLines? (env.setDefault name value) ((name, value) :: defined) rest

def addText? (env : Environment) (text : String) : Option Environment :=
  let s := text.toList
  let s := if s.head? = some '\ufeff' then s.tail else s
  addLines? env [] (logicalLines .complete [] (physicalLines s))

/-- The text of bytes up to the first line that is not UTF-8. -/
def leadingText (bytes : Bytes) : String :=
  let pieces := bytes.splitOn 10
  let good := (pieces.map Utf8.decode?).takeWhile Option.isSome
  let text := "\n".intercalate (good.filterMap id)
  if good.length < pieces.length && !good.isEmpty then text ++ "\n" else text

def fileName : Path := Utf8.encode ".env"

/-- The file of variables in a directory or in the first one above it that has one; `levels` bounds
the number of directories. -/
def find? (fs : FileSystem) (levels : Nat) (dir : Path) : Option Path :=
  let candidate := Path.join dir fileName
  match levels, fs.resolve candidate with
  | _, .ok (_, .file ..) => some candidate
  | 0, _ => none
  | levels + 1, result =>
    let missing := match result with
      | .ok _ => true
      | .error e => e.isNotFound
    if missing then (Path.parent? dir).bind (find? fs levels) else none

/-- The environment with the file of variables added that goes with a directory. -/
def load? (env : Environment) (fs : FileSystem) (cwd : Path) : Option Environment :=
  match find? fs Path.maxLength cwd with
  | none => some env
  | some path =>
    match fs.read path with
    | .ok bytes => env.addText? (leadingText bytes)
    | .error _ => some env

end LineShell.Environment
