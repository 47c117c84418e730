import LineShell.Input.Handoff
import LineShell.Repl

/-!
# The loop beside the reading thread

The loop asks the thread for its lines, and the two run side by side. A turn is so no longer one
step: it shows the header, makes its request, waits for a message or for the word that there will be
none, and makes something of it, and between any two of these the thread goes on as it likes. The
loop may be interrupted while it waits.
-/
namespace LineShell.Repl
open Input.Handoff

variable {σ : Type}

/-- What a turn makes of its message. Tells whether the loop goes on. -/
def conclude (dispatch : String → Shell σ → Dispatch × Shell σ) (repl : Repl σ) :
    Input.Message → Repl σ × Bool
  | .endOfInput => (repl.print "\n", false)
  | .failed cause =>
    let text := "Error: failed to read input: " ++ cause.message
    (repl.print (repl.shell.session.palette.paint .red text ++ "\n"), true)
  | .line line =>
    let (result, shell) := dispatch line repl.shell
    { repl with shell }.present result

/-- The loop when a request has been answered. -/
def answered (repl : Repl σ) (reader : Input.Reader) (world : World σ) : Repl σ :=
  ⟨{ repl.shell with world }, reader, repl.shell.session.history.length⟩

/-- The loop with the header of a turn shown. -/
def headed (repl : Repl σ) : Repl σ :=
  repl.print repl.shell.session.header

/-- A turn shows the header, has its request answered, and makes something of the message. -/
theorem turn_eq (dispatch : String → Shell σ → Dispatch × Shell σ) (repl : Repl σ) :
    repl.turn dispatch =
      let (message, reader, world) := repl.headed.reader.answer repl.headed.shell.world
      (⟨repl.headed.request, message⟩,
        (repl.headed.answered reader world).conclude dispatch message) :=
  rfl

/-- Where the loop is in its turn. -/
inductive Stage where
  | between
  | headed
  | waiting
  | concluding (turn : Turn)
  | ended
  | interrupted

/-- The loop and the thread that it asks for lines. The reader and the world are where the two
parties share them. -/
structure Live (σ : Type) where
  parties : State σ
  session : Session
  recalled : Nat
  stage : Stage
  /-- The turns that have ended. -/
  done : List Turn

namespace Live

/-- The loop and the thread before their first steps. -/
def start (shell : Shell σ) : Live σ where
  parties := .start shell.world
  session := shell.session
  recalled := 0
  stage := .between
  done := []

/-- The loop without the thread. -/
def repl (live : Live σ) : Repl σ :=
  ⟨⟨live.session, live.parties.world⟩, live.parties.reader, live.recalled⟩

/-- The loop after something that it does by itself: of the two parties only the world that they
share is changed. -/
def put (live : Live σ) (repl : Repl σ) (stage : Stage) (done : List Turn) : Live σ where
  parties := { live.parties with world := repl.shell.world }
  session := repl.shell.session
  recalled := repl.recalled
  stage
  done

/-- The loop with the request of a turn made. -/
def requested (live : Live σ) (parties : State σ) (stage : Stage) : Live σ :=
  { live with parties, stage, recalled := live.session.history.length }

/-- The steps of the loop and of the thread, given how lines are dispatched, and those of others. -/
inductive Step (dispatch : String → Shell σ → Dispatch × Shell σ) :
    Live σ → Event σ → Live σ → Prop
  | thread {live : Live σ} {event : Event σ} {parties : State σ} (ofThread : event.ofThread = true)
      (moves : Input.Handoff.Step live.parties event parties) :
      Step dispatch live event { live with parties }
  /-- A turn begins and shows the header. -/
  | head {live : Live σ} (isBetween : live.stage = .between) :
      Step dispatch live .acted (live.put live.repl.headed .headed live.done)
  /-- The loop makes its request. -/
  | ask {live : Live σ} {parties : State σ} (isHeaded : live.stage = .headed)
      (moves : Input.Handoff.Step live.parties (.asked live.repl.request) parties) :
      Step dispatch live (.asked live.repl.request) (live.requested parties .waiting)
  /-- Nobody would receive the request. -/
  | refuse {live : Live σ} {parties : State σ} (isHeaded : live.stage = .headed)
      (moves : Input.Handoff.Step live.parties (.refused live.repl.request) parties) :
      Step dispatch live (.refused live.repl.request)
        (live.requested parties (.concluding ⟨live.repl.request, .endOfInput⟩))
  /-- The call for a line returns. -/
  | answer {live : Live σ} {event : Event σ} {parties : State σ} {request : Input.Request}
      {message : Input.Message} (waits : live.stage = .waiting)
      (returns : event.call? = some (request, message))
      (moves : Input.Handoff.Step live.parties event parties) :
      Step dispatch live event { live with parties, stage := .concluding ⟨request, message⟩ }
  /-- The loop makes something of its message, and the turn ends. -/
  | conclude {live : Live σ} {turn : Turn} {repl : Repl σ} {goesOn : Bool}
      (concludes : live.stage = .concluding turn)
      (makes : live.repl.conclude dispatch turn.message = (repl, goesOn)) :
      Step dispatch live .acted
        (live.put repl (if goesOn then .between else .ended) (live.done ++ [turn]))
  | interrupt {live : Live σ} (waits : live.stage = .waiting) :
      Step dispatch live .acted (live.put (live.repl.print "\n") .interrupted live.done)
  | outside {live : Live σ} (world : World σ) :
      Step dispatch live .elsewhere { live with parties := { live.parties with world } }

/-- Steps in a row, with what can be seen of them. -/
inductive Run (dispatch : String → Shell σ → Dispatch × Shell σ) (live : Live σ) :
    List (Event σ) → Live σ → Prop
  | nil : Run dispatch live [] live
  | snoc {events : List (Event σ)} {mid last : Live σ} {event : Event σ} :
      Run dispatch live events mid → Step dispatch mid event last →
        Run dispatch live (events ++ [event]) last

end Live
end LineShell.Repl
