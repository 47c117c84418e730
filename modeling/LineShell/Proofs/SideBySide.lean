import LineShell.Proofs.LiveTurns
import LineShell.Proofs.Reading

/-!
# The loop and its thread

Beside the thread that reads for it, the loop has the same turns as if it read its lines itself:
however the steps of the two interleave, nothing of it can be seen.
-/
namespace LineShell

namespace Input.Reader
variable {σ : Type}

/-- A closed reader answers without looking at the world. -/
theorem answer_of_closed {reader : Reader} (hclosed : reader.closed = true) (world : World σ) :
    reader.answer world = (.endOfInput, reader, world) := by
  simp [answer, hclosed]

/-- A reader is closed by the last message. -/
theorem closed_answer {reader : Reader} (hopen : reader.closed = false) (world : World σ) :
    (reader.answer world).2.1.closed = (reader.answer world).1.isLast := by
  simp only [answer, hopen, Bool.false_eq_true, if_false]
  cases (world.print prompt).input with
  | error cause => rfl
  | ok input =>
    dsimp only
    split <;> rfl

end Input.Reader

namespace Input.Handoff
variable {σ : Type} {s t : State σ} {event : Event σ} {log : Log}

/-- A step that reads nothing leaves the reader as it is. -/
theorem Step.reader_eq (h : Step s event t) (hserved : event.served? = none) :
    t.reader = s.reader := by
  cases h <;> first | rfl | contradiction

/-- The reader is closed as soon as the last message has come of it, if the prompt can be shown. -/
theorem Run.closed_eq {world : World σ} {events : List (Event σ)}
    (h : Run (.start world) events s)
    (hprompt : ∀ request cause, Event.unprompted request cause ∉ events) :
    s.reader.closed = (served events).any (·.2.isLast) := by
  induction h with
  | nil => rfl
  | @snoc events mid last event hrun hstep ih =>
    have hclosed := ih fun request cause hmem => hprompt request cause (by simp [hmem])
    rw [served, filterMap_snoc, List.any_append]
    cases hserved : event.served? with
    | none =>
      rw [Option.toList_none, List.any_nil, Bool.or_false, hstep.reader_eq hserved]
      exact hclosed
    | some exchange =>
      have level := hrun.inv.level_of_served hstep hserved
      have hlines : (served events).any (·.2.isLast) = false := by
        have hserves : served events = calls events := by
          simpa [Handoff.log] using level.served_eq
        rw [hserves, List.any_eq_false]
        exact fun call hcall => by simp [level.lines call hcall]
      cases hstep with
      | @read request message reader world serves answers =>
        obtain rfl : (request, message) = exchange := by simpa [Event.served?] using hserved
        have hanswer := Reader.closed_answer (hclosed.trans hlines) mid.world
        rw [answers] at hanswer
        rw [served] at hlines
        simpa [hlines] using hanswer
      | @fail request cause serves => exact absurd (by simp) (hprompt request cause)
      | _ => simp [Event.served?] at hserved

end Input.Handoff

namespace Repl
open Input.Handoff
variable {σ : Type} {dispatch : String → Shell σ → Dispatch × Shell σ} {shell : Shell σ}

/-- The loop by itself has these turns first, and then goes on from there. -/
def ComesTo (dispatch : String → Shell σ → Dispatch × Shell σ) (shell : Shell σ)
    (done : List Turn) (repl : Repl σ) : Prop :=
  ∀ more, turns dispatch (done.length + more) (.fresh shell) =
    (done ++ (turns dispatch more repl).1, (turns dispatch more repl).2)

/-- The loop by itself has these turns and no more. -/
def EndsWith (dispatch : String → Shell σ → Dispatch × Shell σ) (shell : Shell σ)
    (done : List Turn) (repl : Repl σ) : Prop :=
  ∀ more, turns dispatch (done.length + more) (.fresh shell) = (done, repl)

theorem ComesTo.go {done : List Turn} {turn : Turn} {repl after : Repl σ}
    (h : ComesTo dispatch shell done repl) (hturn : repl.turn dispatch = (turn, after, true)) :
    ComesTo dispatch shell (done ++ [turn]) after := by
  intro more
  have hmore := h (more + 1)
  rw [turns_of_go hturn] at hmore
  rw [List.length_append, List.length_singleton, Nat.add_assoc, Nat.add_comm 1 more, hmore,
    List.append_assoc, List.singleton_append]

theorem ComesTo.stop {done : List Turn} {turn : Turn} {repl after : Repl σ}
    (h : ComesTo dispatch shell done repl) (hturn : repl.turn dispatch = (turn, after, false)) :
    EndsWith dispatch shell (done ++ [turn]) after := by
  intro more
  have hmore := h (more + 1)
  rw [turns_of_stop hturn] at hmore
  rw [List.length_append, List.length_singleton, Nat.add_assoc, Nat.add_comm 1 more, hmore]

/-- The loop waits for the answer to a request that it makes by itself as well: the thread has not
read for it and nothing has changed, or it has come to the same message. -/
structure Waiting (log : Log) (pending : Option Input.Request) (before repl : Repl σ) : Prop where
  pending_eq : pending = some before.request
  repl_eq : repl = before.answered repl.reader repl.shell.world
  reads : log.served = log.received ∧
      repl.reader = before.reader ∧ repl.shell.world = before.shell.world ∨
    ∃ message, log.served = log.received ++ [(before.request, message)] ∧
      before.reader.answer before.shell.world = (message, repl.reader, repl.shell.world)

/-- The loop has a message for its request, the one that it gets by itself. -/
structure Answered (turn : Turn) (before repl : Repl σ) : Prop where
  request_eq : turn.request = before.request
  repl_eq : repl = before.answered repl.reader repl.shell.world
  answer_eq : before.reader.answer before.shell.world =
    (turn.message, repl.reader, repl.shell.world)

section Waiting
variable {log : Log} {request : Input.Request} {message : Input.Message} {before repl : Repl σ}

/-- The thread reads what the loop by itself would read. -/
theorem Waiting.read {reader : Input.Reader} {found world : World σ}
    (h : Waiting log (some request) before repl) (level : Level log [request] [])
    (answers : repl.reader.answer repl.shell.world = (message, reader, world)) :
    Waiting (log.add (.read request found message)) (some request) before
      ⟨{ repl.shell with world }, reader, repl.recalled⟩ where
  pending_eq := h.pending_eq
  repl_eq := congrArg (fun repl : Repl σ =>
    (⟨{ repl.shell with world }, reader, repl.recalled⟩ : Repl σ)) h.repl_eq
  reads := by
    obtain rfl : request = before.request := Option.some.inj h.pending_eq
    refine .inr ⟨message, ?_, ?_⟩
    · have hserved : (Event.read before.request found message).served? =
          some (before.request, message) := rfl
      rw [log.add_of_served hserved]
      simp [level.served_eq, level.received_eq]
    · rcases h.reads with ⟨-, hreader, hworld⟩ | ⟨other, hserved, -⟩
      · rw [← hreader, ← hworld]
        exact answers
      · simp [level.served_eq, level.received_eq] at hserved

/-- A message that the loop receives is the one that it gets by itself. -/
theorem Waiting.receive (h : Waiting log (some request) before repl)
    (level : Level log [request] [(request, message)]) :
    Answered ⟨request, message⟩ before repl where
  request_eq := Option.some.inj h.pending_eq
  repl_eq := h.repl_eq
  answer_eq := by
    rcases h.reads with ⟨hserved, -⟩ | ⟨other, hserved, hanswer⟩
    · simp [level.served_eq, level.received_eq] at hserved
    · obtain ⟨-, rfl⟩ : request = before.request ∧ message = other := by
        simpa [level.served_eq, level.received_eq] using hserved
      exact hanswer

/-- Where no message comes any more, a closed reader would not read one either. -/
theorem Waiting.cutOff (h : Waiting log (some request) before repl)
    (hreceived : log.served = log.received) (hclosed : repl.reader.closed = true) :
    Answered ⟨request, .endOfInput⟩ before repl where
  request_eq := Option.some.inj h.pending_eq
  repl_eq := h.repl_eq
  answer_eq := by
    rcases h.reads with ⟨-, hreader, hworld⟩ | ⟨other, hserved, -⟩
    · rw [← hreader, ← hworld]
      exact Input.Reader.answer_of_closed hclosed _
    · simp [hreceived] at hserved

theorem Answered.turn_eq {turn : Turn} {after : Repl σ} {goesOn : Bool}
    (h : Answered turn before.headed repl)
    (makes : repl.conclude dispatch turn.message = (after, goesOn)) :
    before.turn dispatch = (turn, after, goesOn) := by
  rw [Repl.turn_eq, h.answer_eq]
  dsimp only
  rw [← h.request_eq, ← h.repl_eq, makes]

end Waiting

/-- The loop, at some stage of a turn, is where it would be by itself. -/
def InLine (dispatch : String → Shell σ → Dispatch × Shell σ) (shell : Shell σ) (log : Log)
    (pending : Option Input.Request) (done : List Turn) (repl : Repl σ) : Stage → Prop
  | .between => ComesTo dispatch shell done repl
  | .headed => ∃ before, ComesTo dispatch shell done before ∧ repl = before.headed
  | .waiting => ∃ before, ComesTo dispatch shell done before ∧
      Waiting log pending before.headed repl
  | .concluding turn => ∃ before, ComesTo dispatch shell done before ∧
      Answered turn before.headed repl
  | .ended => EndsWith dispatch shell done repl
  | .interrupted => ∃ before, ComesTo dispatch shell done before

theorem InLine.alone {log : Log} {pending : Option Input.Request} {done : List Turn} {repl : Repl σ}
    {stage : Stage} (h : InLine dispatch shell log pending done repl stage) :
    (turns dispatch done.length (.fresh shell)).1 = done ∧
      (stage = .ended → ∀ limit, done.length ≤ limit →
        turns dispatch limit (.fresh shell) = (done, repl)) := by
  have hcomes : ∀ {before : Repl σ}, ComesTo dispatch shell done before →
      (turns dispatch done.length (.fresh shell)).1 = done := by
    intro before hcomes
    simpa [turns] using congrArg Prod.fst (hcomes 0)
  cases stage with
  | between => exact ⟨hcomes h, by simp⟩
  | headed | waiting | concluding | interrupted =>
    obtain ⟨before, hbefore⟩ := h
    first | exact ⟨hcomes hbefore, by simp⟩ | exact ⟨hcomes hbefore.1, by simp⟩
  | ended =>
    refine ⟨congrArg Prod.fst (h 0), fun _ limit hlimit => ?_⟩
    have hmore := h (limit - done.length)
    rwa [Nat.add_sub_cancel' hlimit] at hmore

theorem conclude_reader (dispatch : String → Shell σ → Dispatch × Shell σ) (repl : Repl σ)
    (message : Input.Message) : (repl.conclude dispatch message).1.reader = repl.reader := by
  cases message with
  | line line => simp [conclude, present_eq]
  | endOfInput | failed => rfl

theorem Live.repl_put {live : Live σ} {repl : Repl σ} (stage : Stage) (done : List Turn)
    (h : repl.reader = live.parties.reader) : (live.put repl stage done).repl = repl := by
  obtain ⟨⟨session, world⟩, reader, recalled⟩ := repl
  obtain rfl : reader = live.parties.reader := h
  rfl

namespace Live
variable {live live' : Live σ} {event : Event σ} {events : List (Event σ)}

/-- What a step leaves the loop with is what it is left with by itself. -/
theorem Step.inLine
    (h : InLine dispatch shell (log events) live.parties.pending live.done live.repl live.stage)
    (hwaits : live.Waits) (hparties : Input.Handoff.Inv (log events) live.parties)
    (hclosed : live.parties.reader.closed = (served events).any (·.2.isLast))
    (hprompt : ∀ request cause, event ≠ .unprompted request cause) (hevent : event ≠ .elsewhere)
    (hstep : Step dispatch live event live') :
    InLine dispatch shell (log (events ++ [event])) live'.parties.pending live'.done live'.repl
      live'.stage := by
  rw [log_snoc]
  cases hstep with
  | @thread event parties ofThread moves =>
    cases moves with
    | take | dismiss | send | lose | closeRequests | closeMessages =>
      rw [Log.add_inside]
      exact h
    | @read request message reader world serves answers =>
      obtain ⟨hplace, level⟩ := hparties.phase.level_of_serving serves
      have inCall : live.parties.pending = some request := congrArg Place.pending hplace
      by_cases hstage : live.stage = .interrupted
      · simp only [hstage] at h ⊢
        exact h
      · have waits : live.stage = .waiting := (hwaits hstage).1 (by simp [inCall])
        rw [waits, inCall] at h
        obtain ⟨before, hcomes, hwaiting⟩ := h
        simp only [waits, inCall]
        exact ⟨before, hcomes, hwaiting.read level answers⟩
    | fail => exact absurd rfl (hprompt _ _)
    | _ => simp [Event.ofThread] at ofThread
  | head isBetween =>
    rw [isBetween] at h
    exact ⟨live.repl, h, repl_put _ _ rfl⟩
  | @ask parties isHeaded moves =>
    rw [isHeaded] at h
    obtain ⟨before, hcomes, hrepl⟩ := h
    cases moves with
    | ask stays between isOpen =>
      have hreceived := (hparties.phase_of_left stays).served_eq between
      refine ⟨before, hcomes, ?_⟩
      rw [← hrepl]
      refine ⟨rfl, rfl, .inl ⟨?_, rfl, rfl⟩⟩
      rwa [Log.add_asked]
  | @refuse parties isHeaded moves =>
    rw [isHeaded] at h
    obtain ⟨before, hcomes, hrepl⟩ := h
    cases moves with
    | refuse stays between isClosed =>
      have isOver := hparties.finished (.inl isClosed)
      obtain ⟨-, earlier, last, late, ended⟩ :=
        (hparties.phase_of_left stays).ended_of_between between isOver
      refine ⟨before, hcomes, ?_⟩
      rw [← hrepl]
      exact ⟨rfl, rfl, Input.Reader.answer_of_closed (hclosed.trans ended.any_isLast) _⟩
  | @answer event parties request message waits returns moves =>
    rw [waits] at h
    obtain ⟨before, hcomes, hwaiting⟩ := h
    cases moves with
    | @receive request' message' stays inCall isNext =>
      obtain ⟨rfl, rfl⟩ : request' = request ∧ message' = message := by
        simpa [Event.call?] using returns
      rw [inCall] at hwaiting
      have level := ((hparties.phase_of_left stays).level_of_replied inCall isNext).2
      exact ⟨before, hcomes, hwaiting.receive level⟩
    | @hangUp request' stays inCall isEmpty isClosed =>
      obtain ⟨rfl, rfl⟩ : request' = request ∧ .endOfInput = message := by
        simpa [Event.call?] using returns
      rw [inCall] at hwaiting
      have noMessage : live.parties.place.messages = [] := isEmpty
      obtain ⟨earlier, last, late, ended⟩ :=
        (hparties.phase_of_left stays).ended_of_nil (hparties.finished (.inr isClosed)) noMessage
      have hshut : live.repl.reader.closed = true := hclosed.trans ended.any_isLast
      exact ⟨before, hcomes, hwaiting.cutOff ended.served_eq_received hshut⟩
    | refuse stays between =>
      have hpending := hwaiting.pending_eq
      simp [between] at hpending
    | _ => simp [Event.call?] at returns
  | @conclude turn repl goesOn concludes makes =>
    rw [concludes] at h
    obtain ⟨before, hcomes, hanswered⟩ := h
    have hreader : repl.reader = live.repl.reader := by
      simpa [makes] using conclude_reader dispatch live.repl turn.message
    rw [repl_put _ _ hreader]
    cases goesOn with
    | true => exact hcomes.go (hanswered.turn_eq makes)
    | false => exact hcomes.stop (hanswered.turn_eq makes)
  | interrupt waits =>
    rw [waits] at h
    obtain ⟨before, hcomes, -⟩ := h
    exact ⟨before, hcomes⟩
  | outside => contradiction

/-- As long as the prompt can be shown and others do not change the world, the loop is where it
would be by itself. -/
theorem Run.inLine (h : Run dispatch (.start shell) events live)
    (hprompt : ∀ request cause, Event.unprompted request cause ∉ events)
    (hothers : Event.elsewhere ∉ events) :
    InLine dispatch shell (log events) live.parties.pending live.done live.repl live.stage := by
  induction h with
  | nil =>
    intro more
    simp [Live.start, repl, fresh, State.start]
  | @snoc events mid last event hrun hstep ih =>
    have hbefore : ∀ request cause, Event.unprompted request cause ∉ events :=
      fun request cause hmem => hprompt request cause (by simp [hmem])
    rw [List.mem_append, List.mem_singleton, not_or] at hothers
    have hclosed := hrun.moves.closed_eq hbefore
    refine Step.inLine (ih hbefore hothers.1) hrun.inv.waits hrun.moves.inv hclosed ?_
      (Ne.symm hothers.2) hstep
    rintro request cause rfl
    exact hprompt request cause (by simp)

/-- What becomes of the loop beside its thread, however their steps interleave. -/
structure Outcome (dispatch : String → Shell σ → Dispatch × Shell σ) (shell : Shell σ)
    (events : List (Event σ)) (live : Live σ) : Prop where
  /-- The turns are the calls. -/
  calls_eq : calls events = live.returned.map exchange
  /-- Before a turn that has failed all turns have read lines, and after it there is at most one: it
  meets the end of the input and ends the loop. -/
  failed : ∀ front turn back cause, live.done = front ++ turn :: back →
    turn.message = .failed cause →
      (∀ earlier ∈ front, earlier.message.isLast = false) ∧
        (back = [] ∨ live.stage = .ended ∧ ∃ request, back = [⟨request, .endOfInput⟩])
  ended : ∀ front turn back, live.done = front ++ turn :: back → turn.message = .endOfInput →
    back = [] ∧ live.stage = .ended
  /-- A loop that is not over can go on. -/
  goesOn : live.stage = .ended ∨ live.stage = .interrupted ∨
    ∃ event after, Step dispatch live event after ∧ event.ofParties = true ∧
      after.stage ≠ .interrupted
  /-- A turn takes at most nine steps, those of the thread among them. -/
  bounded : events.countP Event.ofParties ≤ 9 * (live.done.length + 1)
  /-- The turns are those of the loop by itself, as long as the prompt can be shown and others do
  not change the world. -/
  alone : (∀ request cause, Event.unprompted request cause ∉ events) →
    Event.elsewhere ∉ events →
    (turns dispatch live.done.length (.fresh shell)).1 = live.done ∧
      (live.stage = .ended → ∀ limit, live.done.length ≤ limit →
        turns dispatch limit (.fresh shell) = (live.done, live.repl))

theorem Run.outcome (h : Run dispatch (.start shell) events live) :
    Outcome dispatch shell events live where
  calls_eq := h.inv.calls_eq
  failed _ _ _ _ hdone hfailed := h.inv.failed h.moves.inv.phase.account hdone hfailed
  ended _ _ _ hdone hend := h.inv.ended hdone hend
  goesOn := h.inv.step_exists h.moves.inv
  bounded := h.inv.bounded
  alone hprompt hothers := (h.inLine hprompt hothers).alone

end Live

/-- However their steps interleave, and whatever becomes of the world and of the input meanwhile,
the dispatcher and the thread that reads for it stay in step, every message reaches its call, and
every call returns, unless the dispatcher gives up. Beside the thread the loop has the turns that it
has by itself, cannot get stuck, and ends at the latest with the turn after one that has failed. -/
theorem reads_in_step (σ : Type) :
    (∀ (world : World σ) (events : List (Event σ)) (s : State σ),
      Input.Handoff.Run (.start world) events s →
        InStep events ∧ (s.left = false →
          (s.pending = none → received events = served events) ∧
            ∀ request, s.pending = some request → Returns s request)) ∧
    ∀ (dispatch : String → Shell σ → Dispatch × Shell σ) (shell : Shell σ)
      (events : List (Event σ)) (live : Live σ), Live.Run dispatch (.start shell) events live →
        Input.Handoff.Run (.start shell.world) events live.parties ∧
          live.Outcome dispatch shell events := by
  constructor
  · intro world events s hrun
    refine ⟨hrun.inStep, fun stays => ⟨fun between => ?_, fun _ waits => hrun.returns waits stays⟩⟩
    exact ((hrun.inv.phase_of_left stays).served_eq between).symm
  · intro dispatch shell events live hrun
    exact ⟨hrun.moves, hrun.outcome⟩

/-- Where the input cannot be read, the first turn fails, and the request of the second is sent
before the thread has dropped its ends of the channels. -/
theorem reads_in_step_of_failing_input :
    let shell := (Shell.startIn ⟨[]⟩).withInput (.error (.os .isDirectory))
    let dispatch : String → Shell ℕ → Dispatch × Shell ℕ := fun _ shell => (.idle, shell)
    ∃ events live, Live.Run dispatch (.start shell) events live ∧ live.stage = .ended ∧
      live.done.map (·.message) = [.failed (.os .isDirectory), .endOfInput] ∧
      turns dispatch 9 (.fresh shell) = (live.done, live.repl) := by
  intro shell dispatch
  have h1 := (Live.Run.nil : Live.Run dispatch (.start shell) [] _).snoc (.head rfl)
  have h2 := h1.snoc (.ask rfl (.ask rfl rfl rfl))
  have h3 := h2.snoc (.thread rfl (.take rfl rfl))
  have h4 := h3.snoc (.thread rfl (.read rfl rfl))
  have h5 := h4.snoc (.thread rfl (.send rfl rfl))
  have h6 := h5.snoc (.answer rfl rfl (.receive rfl rfl rfl))
  have h7 := h6.snoc (.conclude rfl rfl)
  have h8 := h7.snoc (.head rfl)
  have h9 := h8.snoc (.ask rfl (.ask rfl rfl rfl))
  have h10 := h9.snoc (.thread rfl (.closeRequests rfl rfl))
  have h11 := h10.snoc (.thread rfl (.closeMessages rfl rfl))
  have h12 := h11.snoc (.answer rfl rfl (.hangUp rfl rfl rfl rfl))
  have h13 := h12.snoc (.conclude rfl rfl)
  obtain ⟨-, houtcome⟩ := (reads_in_step ℕ).2 dispatch shell _ _ h13
  exact ⟨_, _, h13, rfl, rfl, (houtcome.alone (by simp) (by simp)).2 rfl 9 (by decide)⟩

end Repl
end LineShell
