import LineShell.Environment.Basic
import LineShell.FileSystem.Access
import LineShell.Machine.Raw
import LineShell.Text.Blank

/-!
# Programs in files

An executable file holds either a program of the machine, by its name, or a script for an
interpreter that its first line names.
-/
namespace LineShell.Machine

/-- What an executable file holds. -/
inductive Image where
  | program (name : String)
  | script (interpreter : String) (argument : Option String)
  deriving Repr, DecidableEq

/-- The bytes before the name of a program. They are not UTF-8. -/
def Image.mark : Bytes :=
  [0x7f, 0x45, 0x4c, 0x46, 0x02, 0x01, 0x01, 0x00, 0xff, 0x9d, 0xc3, 0x00, 0xfe, 0x81, 0x00, 0xff]

/-- The content of a file that holds a program. -/
def Image.ofProgram (name : String) : Bytes :=
  Image.mark ++ Raw.encode name

def trimBlanks (s : List Char) : List Char :=
  let isBlank := fun c : Char => c = ' ' || c = '\t'
  Text.dropEndWhile isBlank (s.dropWhile isBlank)

/-- What a file holds, unless it is none of these. -/
def Image.ofContent? (content : Bytes) : Option Image :=
  if Image.mark.isPrefixOf content then
    some (.program (Raw.decode (content.drop Image.mark.length)))
  else if [0x23, 0x21].isPrefixOf content then
    let line := trimBlanks (Raw.decode ((content.drop 2).takeWhile (· != 10))).toList
    let isWord := fun c : Char => c ≠ ' ' && c ≠ '\t'
    let argument := trimBlanks (line.dropWhile isWord)
    if line.isEmpty then none
    else
      some (.script (String.ofList (line.takeWhile isWord))
        (if argument.isEmpty then none else some (String.ofList argument)))
  else none

def executable (fs : FileSystem) (path : Path) : Except Errno Bytes :=
  match fs.resolve path with
  | .ok (_, .file content true) => .ok content
  | .ok _ => .error .accessDenied
  | .error (.os e) => .error e
  | .error _ => .error .noEntry

/-- The program that a file stands for, and all of its words: an interpreter gets the file as an
argument. `fallback` is the interpreter of files that hold anything else, and `depth` bounds the
number of interpreters of interpreters. -/
def loadImage (fs : FileSystem) (cwd : Path) (fallback : Option String) :
    Nat → String → List String → Except Errno (String × List String)
  | 0, _, _ => .error .linkLoop
  | depth + 1, path, words => do
    let content ← executable fs (Raw.path cwd path)
    match Image.ofContent? content with
    | some (.program name) => return (name, words)
    | some (.script interpreter argument) =>
      loadImage fs cwd fallback depth interpreter
        (interpreter :: argument.toList ++ path :: words.tail)
    | none =>
      match fallback with
      | some name => return (name, name :: path :: words.tail)
      | none => .error .notExecutable

/-- Where a program may be: only where its name says if that has a slash, or else in each directory
of the search path, where an empty one stands for the working directory. -/
def candidates (env : Environment) (name : String) : List String :=
  if name.contains '/' then [name]
  else
    (((env.get? "PATH").getD "/bin:/usr/bin").splitOn ":").map fun dir =>
      if dir = "" then name else dir ++ "/" ++ name

structure Found where
  path : String
  program : String
  words : List String
  deriving Repr, DecidableEq

/-- The first candidate that can be loaded. Those that are not there are passed over, also those
that may not be executed, but that is the error then if no other is found. -/
def firstLoadable (fs : FileSystem) (cwd : Path) (fallback : Option String)
    (words : List String) (denied : Bool) : List String → Except Errno Found
  | [] => .error (if denied then .accessDenied else .noEntry)
  | path :: rest =>
    match loadImage fs cwd fallback 5 path words with
    | .ok (program, words) => .ok ⟨path, program, words⟩
    | .error e =>
      if e = .accessDenied then firstLoadable fs cwd fallback words true rest
      else if e = .noEntry || e = .notDirectory then firstLoadable fs cwd fallback words denied rest
      else .error e

def findProgram (fs : FileSystem) (cwd : Path) (env : Environment) (fallback : Option String)
    (words : List String) : Except Errno Found :=
  let name := words.headD ""
  if name = "" then .error .noEntry
  else if name.contains '/' then do
    let (program, words) ← loadImage fs cwd fallback 5 name words
    return ⟨name, program, words⟩
  else firstLoadable fs cwd fallback words false (candidates env name)

/-- The name of the process that executes a file: the last part of the path, as far as there is
room for it. -/
def processName (path : String) : String :=
  let base := (path.splitOn "/").getLastD path
  Raw.decode ((Raw.encode base).take 15)

end LineShell.Machine
