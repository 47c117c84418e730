import LineShell.Proofs.History
import LineShell.Proofs.InputLines
import LineShell.Repl

/-!
# The loop and its lines

As long as nobody else reads the standard input, the loop is what it would be if the lines were
known beforehand: it asks for each of them with a header and a prompt, dispatches it, and shows what
came of it, up to the first that leaves the shell. How the reader takes its input in chunks, and
what it keeps of them, makes no difference.
-/
namespace LineShell

def Shell.say (shell : Shell σ) (text : String) : Shell σ :=
  { shell with world := shell.world.print text }

def Shell.withInput (shell : Shell σ) (input : Except IoError Bytes) : Shell σ :=
  { shell with world := { shell.world with input } }

theorem Shell.say_empty (shell : Shell σ) : shell.say "" = shell := by
  have hnone : Utf8.encode "" = [] := by decide
  simp [say, World.print, hnone]

def Dispatch.shown : Dispatch → String
  | .idle | .exit | .report "" => ""
  | .report text => text ++ "\n"
  | .raw text => text

namespace Input.Reader

variable {σ : Type} {world : World σ} {buffer input : Bytes}

end Input.Reader

namespace Repl
variable {σ : Type}

/-- A shell that has asked for a line. -/
def asked (shell : Shell σ) : Shell σ :=
  (shell.say shell.session.header).say "$ "

variable {dispatch : String → Shell σ → Dispatch × Shell σ}

/-- Showing what came of a line is writing it, unless the line leaves the shell. -/
theorem present_eq (repl : Repl σ) (result : Dispatch) :
    repl.present result =
      ({ repl with shell := repl.shell.say result.shown }, decide (result ≠ .exit)) := by
  unfold present Dispatch.shown
  split <;> simp_all only [Shell.say_empty] <;> rfl

theorem turns_of_stop {limit : Nat} {repl repl' : Repl σ} {turn : Turn}
    (h : repl.turn dispatch = (turn, repl', false)) :
    turns dispatch (limit + 1) repl = ([turn], repl') := by
  rw [turns, h]

theorem turns_of_go {limit : Nat} {repl repl' : Repl σ} {turn : Turn}
    (h : repl.turn dispatch = (turn, repl', true)) :
    turns dispatch (limit + 1) repl =
      (turn :: (turns dispatch limit repl').1, (turns dispatch limit repl').2) := by
  rw [turns, h]

end Repl
end LineShell
