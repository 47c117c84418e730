import LineShell.Text.Blank
import LineShell.Text.CharLiteral
import LineShell.Text.Numeral
import LineShell.Text.Offset

/-!
# The status line of a process

A status line has the process id, the name in parentheses, and a letter for the state. The name
may hold anything, parentheses included, so it runs from the first opening one to the last closing
one.
-/
namespace LineShell

/-- What a process is doing. -/
inductive ProcessState where
  | running
  | sleeping
  | diskSleep
  | stopped
  | zombie
  | idle
  | dead
  | other (letter : Char)
  deriving Repr, DecidableEq

namespace ProcessState

def ofLetter : Char → ProcessState
  | 'R' => .running
  | 'S' => .sleeping
  | 'D' => .diskSleep
  | 'T' | 't' => .stopped
  | 'Z' => .zombie
  | 'I' => .idle
  | 'X' | 'x' => .dead
  | c => .other c

/-- The word for a state. -/
def display : ProcessState → String
  | .running => "running"
  | .sleeping => "sleeping"
  | .diskSleep => "disk-sleep"
  | .stopped => "stopped"
  | .zombie => "zombie"
  | .idle => "idle"
  | .dead => "dead"
  | .other c => c.toString

end ProcessState

/-- A process as its status line describes it. -/
structure ProcessInfo where
  pid : Int
  name : String
  state : ProcessState
  deriving Repr, DecidableEq

/-- Where the name of a process stands in a status line: the byte offsets of the parentheses around
it. -/
structure NamePlace where
  opening : Nat
  closing : Nat
  deriving Repr, DecidableEq

namespace NamePlace

/-- The place of the name in a line: from the first opening parenthesis to the last closing one. -/
def find? (line : List Char) : Option NamePlace := do
  let opening ← Text.offsetOf? '(' line
  let closing ← Text.lastOffsetOf? ')' line
  if closing < opening then none else return ⟨opening, closing⟩

def before (place : NamePlace) (line : List Char) : List Char :=
  Text.slice line 0 place.opening

def name (place : NamePlace) (line : List Char) : List Char :=
  Text.slice line (place.opening + 1) place.closing

/-- What stands behind the name. -/
def behind (place : NamePlace) (line : List Char) : List Char :=
  Text.slice line (place.closing + 1) (Text.byteLength line)

end NamePlace

namespace ProcessInfo

/-- The process that a status line describes. -/
def ofStat? (line : String) : Option ProcessInfo := do
  let place ← NamePlace.find? line.toList
  let pid ← Numeral.readSigned? (Nat.pow 2 31) (Text.trimChars (place.before line.toList))
  let letter ← (Text.trimStartChars (place.behind line.toList)).head?
  return ⟨pid, String.ofList (place.name line.toList), .ofLetter letter⟩

end ProcessInfo
end LineShell
