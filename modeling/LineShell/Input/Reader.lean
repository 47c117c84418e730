import LineShell.Input.Line
import LineShell.System

/-!
# Reading lines

A reader takes its input in chunks and hands it out line by line, one for each request. Once it has
met the end of the input or an error it is closed and reads no more: every later request is
answered by the end of the input.
-/
namespace LineShell.Input

/-- A request for a line, with what the line may refer to. -/
structure Request where
  workingDir : Path
  /-- The lines that went into the history since the request before. -/
  history : List String
  deriving Repr, DecidableEq

/-- The answer to a request. -/
inductive Message where
  | line (text : String)
  | endOfInput
  | failed (cause : IoError)
  deriving Repr, DecidableEq

/-- A reader: what it has taken and not handed out yet, and whether it is closed. -/
structure Reader where
  buffer : Bytes
  closed : Bool
  deriving Repr, DecidableEq

namespace Reader

def fresh : Reader := ⟨[], false⟩

def chunkSize : Nat := 8192

/-- The bytes up to the next line feed and with it, or up to the end of the input; then what the
reader keeps, and the bytes that it leaves. -/
def gather (buffer input : Bytes) : Bytes × Bytes × Bytes :=
  if buffer.contains lineFeed then
    let (line, rest) := splitLine buffer
    (line, rest, input)
  else
    match _h : input with
    | [] => (buffer, [], [])
    | _ :: _ => gather (buffer ++ input.take chunkSize) (input.drop chunkSize)
termination_by input.length
decreasing_by
  subst _h
  simp only [List.length_drop, chunkSize, List.length_cons]
  omega

/-- Shown where a line is asked for. -/
def prompt : String := "$ "

def answer (reader : Reader) (world : World σ) : Message × Reader × World σ :=
  if reader.closed then (.endOfInput, reader, world)
  else
    let world := world.print prompt
    match world.input with
    | .error cause => (.failed cause, { reader with closed := true }, world)
    | .ok input =>
      let (line, buffer, input) := gather reader.buffer input
      let world := { world with input := .ok input }
      if line.isEmpty then (.endOfInput, ⟨buffer, true⟩, world)
      else (.line (decodeLine line), ⟨buffer, false⟩, world)

end Reader
end LineShell.Input
