import LineShell.Live
import LineShell.Proofs.InStep

/-!
# The turns of a loop beside its thread

A run of the loop and its thread is a run of two parties in step, and the turns of the loop are the
calls of the dispatcher. From this, a turn takes a bounded number of steps, a loop that is not over
can go on, and after a turn whose read has failed there is at most one more, which ends the loop.
-/
namespace LineShell

namespace Input.Handoff
variable {σ : Type} {s t : State σ} {event : Event σ}

/-- The thread does nothing to the dispatcher. -/
theorem Step.thread_eq (h : Step s event t) (hthread : event.ofThread = true) :
    t.pending = s.pending ∧ t.left = s.left ∧ event.call? = none := by
  cases h <;> first | exact ⟨rfl, rfl, rfl⟩ | contradiction

theorem Event.ofParties_of (h : event.ofThread = true ∨ event.call?.isSome) :
    event.ofParties = true := by
  cases event <;> first | rfl | simp [Event.ofThread, Event.call?] at h

/-- A call returns only where the dispatcher has not given up, and then it is out of the call. -/
theorem Step.call_eq (h : Step s event t) (hcall : event.call?.isSome) :
    t.pending = none ∧ t.left = s.left := by
  cases h with
  | refuse _ between => exact ⟨between, rfl⟩
  | receive | hangUp => exact ⟨rfl, rfl⟩
  | _ => simp [Event.call?] at hcall

end Input.Handoff

namespace Repl
open Input.Handoff
variable {σ : Type}

/-- A turn as the call that it makes. -/
def exchange (turn : Turn) : Exchange :=
  (turn.request, turn.message)

/-- How many steps the loop may yet make in its turn, and the thread for a request that is yet to be
made. -/
def Stage.stepsLeft : Stage → ℕ
  | .between | .ended | .interrupted => 0
  | .headed => 8
  | .waiting => 2
  | .concluding _ => 1

/-- How many turns have begun and not ended. -/
def Stage.begun : Stage → ℕ
  | .between | .ended => 0
  | .headed | .waiting | .concluding _ | .interrupted => 1

/-- The end of the input ends the loop. -/
theorem conclude_endOfInput {dispatch : String → Shell σ → Dispatch × Shell σ} {repl after : Repl σ}
    {message : Input.Message} (h : repl.conclude dispatch message = (after, true)) :
    message ≠ .endOfInput := by
  rintro rfl
  simp [conclude] at h

namespace Live
variable {dispatch : String → Shell σ → Dispatch × Shell σ} {shell : Shell σ}
  {live live' : Live σ} {event : Event σ} {events : List (Event σ)}

/-- A step of the loop or the thread is a step of the two parties. -/
theorem Step.moves (h : Step dispatch live event live') :
    Input.Handoff.Step live.parties event live'.parties := by
  cases h with
  | thread _ moves | ask _ moves | refuse _ moves | answer _ _ moves => exact moves
  | head | conclude | interrupt => exact .act _
  | outside world => exact .change world

/-- A run of the loop and the thread is a run of the two parties. -/
theorem Run.moves (h : Run dispatch (.start shell) events live) :
    Input.Handoff.Run (.start shell.world) events live.parties := by
  induction h with
  | nil => exact .nil
  | snoc _ hstep ih => exact ih.snoc hstep.moves

theorem Step.ne_left (h : Step dispatch live event live') : event ≠ .left := by
  rintro rfl
  cases h with
  | thread ofThread => simp [Event.ofThread] at ofThread
  | answer _ returns => simp [Event.call?] at returns

/-- The turns whose calls have returned. -/
def returned (live : Live σ) : List Turn :=
  match live.stage with
  | .concluding turn => live.done ++ [turn]
  | _ => live.done

theorem returned_eq (live : Live σ) : ∃ more, live.returned = live.done ++ more := by
  unfold returned
  split
  · exact ⟨_, rfl⟩
  · exact ⟨[], by rw [List.append_nil]⟩

/-- A call returns where its turn gets its message. -/
theorem Step.returned_eq (h : Step dispatch live event live') :
    live'.returned.map exchange = live.returned.map exchange ++ event.call?.toList := by
  cases h with
  | thread ofThread moves => simp [returned, (moves.thread_eq ofThread).2.2]
  | head stage | ask stage | interrupt stage => simp [returned, put, requested, stage, Event.call?]
  | outside => simp [returned, Event.call?]
  | refuse stage => simp [returned, requested, stage, Event.call?, exchange]
  | answer stage returns => simp [returned, stage, returns, exchange]
  | @conclude turn repl goesOn stage => cases goesOn <;> simp [returned, put, stage, Event.call?]

/-- A turn ends by itself only, and one that has met the end of the input ends the loop. -/
theorem Step.done_eq (h : Step dispatch live event live') :
    live'.done = live.done ∧ (live.stage = .ended → live'.stage = .ended) ∨
      ∃ turn, live.stage = .concluding turn ∧ live'.done = live.done ++ [turn] ∧
        (live'.stage = .ended ∨ turn.message ≠ .endOfInput) := by
  cases h with
  | thread | outside => exact .inl ⟨rfl, id⟩
  | head stage | ask stage | refuse stage | answer stage | interrupt stage =>
    exact .inl ⟨rfl, by simp [stage]⟩
  | @conclude turn repl goesOn concludes makes =>
    refine .inr ⟨turn, concludes, rfl, ?_⟩
    cases goesOn with
    | false => exact .inl rfl
    | true => exact .inr (conclude_endOfInput makes)

/-- The dispatcher is in a call just where the loop waits. -/
def Waits (live : Live σ) : Prop :=
  live.stage ≠ .interrupted → (live.parties.pending.isSome ↔ live.stage = .waiting)

theorem Step.waits (h : Step dispatch live event live') (hwaits : live.Waits) : live'.Waits := by
  intro hstage
  cases h with
  | thread ofThread moves =>
    rw [(moves.thread_eq ofThread).1]
    exact hwaits hstage
  | head stage => simpa [put, stage] using hwaits (by simp [stage])
  | @conclude turn repl goesOn stage =>
    cases goesOn <;> simpa [put, stage] using hwaits (by simp [stage])
  | ask _ moves =>
    cases moves
    simp [requested]
  | refuse _ moves => simp [requested, (moves.call_eq rfl).1]
  | answer _ returns moves => simp [(moves.call_eq (by simp [returns])).1]
  | interrupt => exact absurd rfl hstage
  | outside => exact hwaits hstage

/-- A turn that begins adds nine steps to those that are left, and each step takes one away. -/
theorem Step.stepsLeft_le {log : Log} (h : Step dispatch live event live')
    (hparties : Input.Handoff.Inv log live.parties) (stays : live.parties.left = false) :
    live'.parties.stepsLeft + live'.stage.stepsLeft + event.ofParties.toNat +
        9 * (live.done.length + live.stage.begun) ≤
      live.parties.stepsLeft + live.stage.stepsLeft +
        9 * (live'.done.length + live'.stage.begun) := by
  have hparties := hparties.stepsLeft_step stays h.moves
  have hone := Bool.toNat_le event.ofParties
  cases h with
  | @thread event parties ofThread moves =>
    have hrequest : event.request? = none := by
      cases event <;> first | rfl | simp [Event.ofThread] at ofThread
    simp only [ofThread, hrequest, Bool.toNat_true, Option.toList_none, List.length_nil] at hparties
    dsimp only
    omega
  | @answer event parties request message stage returns moves =>
    have hquiet : event.ofThread = false ∧ event.request? = none := by
      cases event <;> first | exact ⟨rfl, rfl⟩ | simp [Event.call?] at returns
    simp [hquiet, stage, Stage.stepsLeft, Stage.begun] at hparties ⊢
    omega
  | @conclude turn repl goesOn stage =>
    cases goesOn <;>
      simp [put, stage, Stage.stepsLeft, Stage.begun, Event.ofThread, Event.request?]
        at hparties ⊢ <;>
      omega
  | head stage | ask stage | refuse stage | interrupt stage =>
    simp [put, requested, stage, Stage.stepsLeft, Stage.begun, Event.ofThread, Event.request?]
      at hparties ⊢
    omega
  | outside world => simp [Event.ofParties, State.stepsLeft]

/-- What holds of the loop and its thread wherever a run comes to. -/
structure Inv (events : List (Event σ)) (live : Live σ) : Prop where
  stays : live.parties.left = false
  calls_eq : calls events = live.returned.map exchange
  waits : live.Waits
  /-- No turn follows one that has met the end of the input. -/
  goesOn : live.stage ≠ .ended → ∀ turn ∈ live.done, turn.message ≠ .endOfInput
  wentOn : ∀ turn ∈ live.done.dropLast, turn.message ≠ .endOfInput
  steps : events.countP Event.ofParties + live.parties.stepsLeft + live.stage.stepsLeft ≤
    9 * (live.done.length + live.stage.begun)

theorem Inv.start (shell : Shell σ) : Inv [] (Live.start shell) where
  stays := rfl
  calls_eq := rfl
  waits _ := by simp [Live.start, State.start]
  goesOn _ := by simp [Live.start]
  wentOn := by simp [Live.start]
  steps := by simp [Live.start, State.start, State.stepsLeft, Stage.stepsLeft, Channel.fresh]

theorem Inv.step {log : Log} (h : Inv events live) (hparties : Input.Handoff.Inv log live.parties)
    (hstep : Step dispatch live event live') : Inv (events ++ [event]) live' where
  stays := (hstep.moves.left_eq hstep.ne_left).trans h.stays
  calls_eq := by
    rw [calls, filterMap_snoc, ← calls, h.calls_eq]
    exact hstep.returned_eq.symm
  waits := hstep.waits h.waits
  goesOn hover := by
    rcases hstep.done_eq with ⟨hdone, hstage⟩ | ⟨turn, hstage, hdone, hmessage⟩
    · rw [hdone]
      exact h.goesOn (mt hstage hover)
    · have hbefore := h.goesOn (by simp [hstage])
      rw [hdone]
      simpa [or_imp, forall_and, hmessage.resolve_left hover] using hbefore
  wentOn := by
    rcases hstep.done_eq with ⟨hdone, -⟩ | ⟨turn, hstage, hdone, -⟩
    · rw [hdone]
      exact h.wentOn
    · rw [hdone, List.dropLast_concat]
      exact h.goesOn (by simp [hstage])
  steps := by
    have hcount := h.steps
    have hleft := hstep.stepsLeft_le hparties h.stays
    rw [countP_snoc]
    omega

theorem Run.inv (h : Run dispatch (.start shell) events live) : Inv events live := by
  induction h with
  | nil => exact .start shell
  | snoc hrun hstep ih => exact ih.step hrun.moves.inv hstep

theorem Inv.ended (h : Inv events live) {front back : List Turn} {turn : Turn}
    (hdone : live.done = front ++ turn :: back) (hend : turn.message = .endOfInput) :
    back = [] ∧ live.stage = .ended := by
  constructor
  · by_contra hne
    refine h.wentOn turn ?_ hend
    rw [hdone, List.dropLast_append_of_ne_nil (by simp), List.dropLast_cons_of_ne_nil hne]
    simp
  · by_contra hne
    exact h.goesOn hne turn (by simp [hdone]) hend

theorem Inv.failed (h : Inv events live) (haccount : Account (log events))
    {front back : List Turn} {turn : Turn} {cause : IoError}
    (hdone : live.done = front ++ turn :: back) (hfailed : turn.message = .failed cause) :
    (∀ earlier ∈ front, earlier.message.isLast = false) ∧
      (back = [] ∨ live.stage = .ended ∧ ∃ request, back = [⟨request, .endOfInput⟩]) := by
  obtain ⟨more, hmore⟩ := live.returned_eq
  have hcalls : (log events).calls =
      front.map exchange ++ exchange turn :: (back ++ more).map exchange := by
    rw [show (log events).calls = calls events from rfl, h.calls_eq, hmore, hdone]
    simp
  obtain ⟨hfront, hback⟩ := haccount.failed hcalls hfailed
  refine ⟨fun earlier hearlier => hfront _ (List.mem_map_of_mem hearlier), ?_⟩
  cases back with
  | nil => exact .inl rfl
  | cons next back =>
    have hnext : next.message = .endOfInput := hback (exchange next) (by simp)
    have hparts : live.done = (front ++ [turn]) ++ next :: back := by simp [hdone]
    obtain ⟨rfl, hover⟩ := h.ended hparts hnext
    exact .inr ⟨hover, next.request, by rw [← hnext]⟩

/-- The loop is never stuck. -/
theorem Inv.step_exists {log : Log} (h : Inv events live)
    (hparties : Input.Handoff.Inv log live.parties) :
    live.stage = .ended ∨ live.stage = .interrupted ∨
      ∃ event after, Step dispatch live event after ∧ event.ofParties = true ∧
        after.stage ≠ .interrupted := by
  cases hstage : live.stage with
  | ended => exact .inl rfl
  | interrupted => exact .inr (.inl rfl)
  | between => exact .inr (.inr ⟨_, _, .head hstage, rfl, by simp [put]⟩)
  | headed =>
    have between : live.parties.pending = none := by
      simpa [hstage] using h.waits (by simp [hstage])
    cases hopen : live.parties.requests.hasReceiver with
    | true =>
      refine .inr (.inr ⟨_, _, .ask hstage (.ask h.stays between hopen), rfl, ?_⟩)
      simp [requested]
    | false =>
      refine .inr (.inr ⟨_, _, .refuse hstage (.refuse h.stays between hopen), rfl, ?_⟩)
      simp [requested]
  | waiting =>
    obtain ⟨request, hrequest⟩ := Option.isSome_iff_exists.1 ((h.waits (by simp [hstage])).2 hstage)
    obtain ⟨event, parties, moves, hevent⟩ := hparties.possible hrequest h.stays
    have hparty := Event.ofParties_of hevent
    rcases hevent with hthread | hcall
    · exact .inr (.inr ⟨event, _, .thread hthread moves, hparty, by simp [hstage]⟩)
    · obtain ⟨⟨asked, message⟩, hcall⟩ := Option.isSome_iff_exists.1 hcall
      exact .inr (.inr ⟨event, _, .answer hstage hcall moves, hparty, by simp⟩)
  | concluding turn =>
    rcases hmade : live.repl.conclude dispatch turn.message with ⟨repl, goesOn⟩
    exact .inr (.inr ⟨_, _, .conclude hstage hmade, rfl, by cases goesOn <;> simp [put]⟩)

theorem Inv.bounded (h : Inv events live) :
    events.countP Event.ofParties ≤ 9 * (live.done.length + 1) := by
  have hbegun : live.stage.begun ≤ 1 := by
    cases live.stage <;> simp [Stage.begun]
  have hsteps := h.steps
  omega

end Live
end Repl
end LineShell
