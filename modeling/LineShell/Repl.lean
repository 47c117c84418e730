import LineShell.Dispatch
import LineShell.Input.Reader

/-!
# The loop

Every turn shows the prompt header, asks the reader for a line, and dispatches the line. The loop
ends with the input or with a line that leaves the shell, and then says goodbye.
-/
namespace LineShell

/-- What happened in a turn: the request that was made, and the message that came back. -/
structure Turn where
  request : Input.Request
  message : Input.Message
  deriving Repr, DecidableEq

/-- The loop between two turns. -/
structure Repl (σ : Type) where
  shell : Shell σ
  reader : Input.Reader
  /-- The number of history entries that the reader has been handed. -/
  recalled : Nat

namespace Repl

/-- The loop before its first turn. -/
def fresh (shell : Shell σ) : Repl σ :=
  ⟨shell, .fresh, 0⟩

def print (repl : Repl σ) (text : String) : Repl σ :=
  { repl with shell := { repl.shell with world := repl.shell.world.print text } }

/-- Shows what came of a line. Tells whether the loop goes on. -/
def present (repl : Repl σ) : Dispatch → Repl σ × Bool
  | .idle | .report "" => (repl, true)
  | .report text => (repl.print (text ++ "\n"), true)
  | .raw text => (repl.print text, true)
  | .exit => (repl, false)

def request (repl : Repl σ) : Input.Request :=
  let session := repl.shell.session
  ⟨session.workingDir, session.history.drop repl.recalled⟩

/-- One turn, given how lines are dispatched. Tells whether the loop goes on. -/
def turn (dispatch : String → Shell σ → Dispatch × Shell σ) (repl : Repl σ) :
    Turn × Repl σ × Bool :=
  let repl := repl.print repl.shell.session.header
  let request := repl.request
  let (message, reader, world) := repl.reader.answer repl.shell.world
  let shell := { repl.shell with world }
  let repl : Repl σ := ⟨shell, reader, shell.session.history.length⟩
  (⟨request, message⟩,
    match message with
    | .endOfInput => (repl.print "\n", false)
    | .failed cause =>
      let text := "Error: failed to read input: " ++ cause.message
      (repl.print (shell.session.palette.paint .red text ++ "\n"), true)
    | .line line =>
      let (result, shell) := dispatch line shell
      { repl with shell }.present result)

/-- At most `limit` turns, up to the one that ends the loop. -/
def turns (dispatch : String → Shell σ → Dispatch × Shell σ) : Nat → Repl σ → List Turn × Repl σ
  | 0, repl => ([], repl)
  | limit + 1, repl =>
    match repl.turn dispatch with
    | (turn, repl, false) => ([turn], repl)
    | (turn, repl, true) =>
      let (rest, repl) := turns dispatch limit repl
      (turn :: rest, repl)

/-- The number of bytes that the standard input has left. -/
def inputLength (world : World σ) : Nat :=
  match world.input with
  | .ok bytes => bytes.length
  | .error _ => 0

/-- Runs the loop and says goodbye. A line has at least one byte, and at most one turn fails, so
there are no more turns than bytes and two. -/
def run (dispatch : String → Shell σ → Dispatch × Shell σ) (shell : Shell σ) :
    List Turn × Shell σ :=
  let (done, repl) := turns dispatch (inputLength shell.world + 2) (.fresh shell)
  (done, (repl.print (repl.shell.session.farewell ++ "\n")).shell)

end Repl
end LineShell
