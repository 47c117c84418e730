import LineShell.Proofs.Phases
import Mathlib.Data.List.Induction

/-!
# Two parties in step

The dispatcher and the thread that reads for it stay in step, however their steps interleave. The
thread reads only for the one request that no call has returned for, and what it has come to reaches
that call. After the last message the thread reads no more, and every later call returns the end of
the input: where the thread's end of the first channel is dropped already, since its request cannot
be sent, and where it is not, since the second channel runs dry. And every call returns.
-/
namespace LineShell.Input.Handoff
variable {σ : Type} {log : Log} {s t : State σ} {event : Event σ}

theorem Run.append {u : State σ} {front back : List (Event σ)} (h : Run s front t)
    (h' : Run t back u) : Run s (front ++ back) u := by
  induction h' with
  | nil => rwa [List.append_nil]
  | snoc _ hstep ih =>
    rw [← List.append_assoc]
    exact ih.snoc hstep

/-- A run ends with its last step. -/
theorem Run.of_snoc {events : List (Event σ)} (h : Run s (events ++ [event]) t) :
    ∃ mid, Run s events mid ∧ Step mid event t := by
  generalize hevents : events ++ [event] = all at h
  cases h with
  | nil => simp at hevents
  | snoc hrun hstep =>
    obtain ⟨rfl, hevent⟩ := List.append_inj' hevents rfl
    obtain rfl : event = _ := by simpa using hevent
    exact ⟨_, hrun, hstep⟩

/-- A run comes by each of its events. -/
theorem Run.stop {front back : List (Event σ)} (h : Run s (front ++ event :: back) t) :
    ∃ mid after, Run s front mid ∧ Step mid event after := by
  induction back using List.reverseRecOn generalizing t with
  | nil =>
    obtain ⟨mid, hfront, hstep⟩ := h.of_snoc
    exact ⟨mid, t, hfront, hstep⟩
  | append_singleton back last ih =>
    rw [← List.cons_append, ← List.append_assoc] at h
    obtain ⟨mid, hrun, -⟩ := h.of_snoc
    exact ih hrun

/-- What two parties in step have come to, whatever happened on the way. -/
structure InStep (events : List (Event σ)) : Prop where
  /-- The thread comes to a message only for a request that was sent and is the only one that no
  call has returned for, and it has not come to one for it before. -/
  outstanding : ∀ front event back exchange, events = front ++ event :: back →
    event.served? = some exchange →
      sent front = (calls front).map Prod.fst ++ [exchange.1] ∧ served front = calls front
  /-- It comes to messages in the order of the requests, at most one for each. -/
  inOrder : (served events).map Prod.fst <+: sent events
  /-- What it has come to is received as it is, but for at most one message on its way. Calls return
  what is received; those that received nothing are after the last message. -/
  paired : ∃ unreceived late, served events = received events ++ unreceived ∧
    unreceived.length ≤ 1 ∧ calls events = received events ++ late ∧
    (late = [] ∨ unreceived = [] ∧ ∃ last ∈ received events, last.2.isLast = true)
  /-- After the last message the thread reads no more, and once it is received all calls return the
  end of the input. -/
  last : ∀ front event back exchange, events = front ++ event :: back →
    event.served? = some exchange → exchange.2.isLast = true →
      served back = [] ∧
        (calls back = [] ∨
          ∃ late, calls back = exchange :: late ∧ ∀ call ∈ late, call.2 = .endOfInput)
  /-- At most one call fails: those before it return lines, and those after it the end. -/
  failed : ∀ front call back cause, calls events = front ++ call :: back →
    call.2 = .failed cause →
      (∀ earlier ∈ front, earlier.2.isLast = false) ∧ ∀ later ∈ back, later.2 = .endOfInput

theorem Inv.level_of_served {exchange : Exchange} (h : Inv log s) (hstep : Step s event t)
    (hserved : event.served? = some exchange) : Level log [exchange.1] [] := by
  cases hstep with
  | read serves | fail serves =>
    obtain rfl : _ = exchange := by simpa [Event.served?] using hserved
    exact (h.phase.level_of_serving serves).2
  | _ => simp [Event.served?] at hserved

theorem call?_of_served? {exchange : Exchange} (hserved : event.served? = some exchange) :
    event.call? = none := by
  cases event <;> simp_all [Event.served?, Event.call?]

theorem Account.inOrder (h : Account log) : log.served.map Prod.fst <+: log.sent := by
  cases h with
  | level level forRequests one =>
    rw [level.served_eq, level.sent_eq, List.map_append]
    exact (List.prefix_append_right_inj _).2 forRequests
  | ended ended => exact ended.served_eq ▸ ended.sent_of

theorem Account.paired (h : Account log) :
    ∃ unreceived late, log.served = log.received ++ unreceived ∧ unreceived.length ≤ 1 ∧
      log.calls = log.received ++ late ∧
      (late = [] ∨ unreceived = [] ∧ ∃ last ∈ log.received, last.2.isLast = true) := by
  cases h with
  | @level outstanding unreceived level forRequests one =>
    exact ⟨unreceived, [], by rw [level.received_eq, level.served_eq], one,
      by rw [level.received_eq, List.append_nil], .inl rfl⟩
  | @ended earlier late last ended =>
    refine ⟨[], late, by rw [ended.received_eq, ended.served_eq, List.append_nil], by simp,
      by simp [ended.received_eq, ended.calls_eq], .inr ⟨rfl, last, ?_, ended.isLast⟩⟩
    simp [ended.received_eq]

theorem Account.failed (h : Account log) {front back : List Exchange} {call : Exchange}
    {cause : IoError} (hcalls : log.calls = front ++ call :: back)
    (hfailed : call.2 = .failed cause) :
    (∀ earlier ∈ front, earlier.2.isLast = false) ∧ ∀ later ∈ back, later.2 = .endOfInput := by
  have hlast : call.2.isLast = true := by rw [hfailed]; rfl
  cases h with
  | level level => simp [level.lines call (by simp [hcalls])] at hlast
  | @ended earlier late last ended =>
    have hearlier : call ∉ earlier := fun hmem => by simp [ended.lines call hmem] at hlast
    have hlate : call ∉ late := fun hmem => by simp [ended.late_eq call hmem] at hfailed
    rw [ended.calls_eq] at hcalls
    obtain ⟨rfl, -, rfl⟩ := (List.append_cons_inj_of_notMem hearlier hlate).1 hcalls
    exact ⟨ended.lines, ended.late_eq⟩

/-- What follows the last message that the thread comes to. -/
theorem Account.last {front back : List (Event σ)} {exchange : Exchange}
    (h : Account (Handoff.log (front ++ event :: back)))
    (hlevel : Level (Handoff.log front) [exchange.1] [])
    (hserved : event.served? = some exchange) (hlast : exchange.2.isLast = true) :
    served back = [] ∧ (calls back = [] ∨
      ∃ late, calls back = exchange :: late ∧ ∀ call ∈ late, call.2 = .endOfInput) := by
  have hserves : served (front ++ event :: back) = calls front ++ exchange :: served back := by
    have hfront : served front = calls front := by simpa [Handoff.log] using hlevel.served_eq
    rw [← hfront]
    simp [served, hserved]
  have hcalls : calls (front ++ event :: back) = calls front ++ calls back := by
    simp [calls, call?_of_served? hserved]
  cases h with
  | @level outstanding unreceived level forRequests one =>
    -- The message is no line, so it is the one that was not received yet.
    have hrest : exchange :: served back = calls back ++ unreceived := by
      have hboth := level.served_eq
      simp only [Handoff.log, hserves, hcalls, List.append_assoc] at hboth
      exact List.append_cancel_left hboth
    cases hback : calls back with
    | nil =>
      rw [hback, List.nil_append] at hrest
      rw [← hrest, List.length_cons] at one
      exact ⟨List.eq_nil_of_length_eq_zero (by omega), .inl rfl⟩
    | cons call rest =>
      rw [hback, List.cons_append] at hrest
      obtain rfl : exchange = call := (List.cons.inj hrest).1
      have hline := level.lines exchange (by simp [Handoff.log, hcalls, hback])
      simp [hline] at hlast
  | @ended earlier late last ended =>
    have hearlier : exchange ∉ earlier := fun hmem => by simp [ended.lines exchange hmem] at hlast
    have hsplit : earlier ++ last :: [] = calls front ++ exchange :: served back :=
      ended.served_eq.symm.trans hserves
    obtain ⟨hfront, rfl, hback⟩ :=
      (List.append_cons_inj_of_notMem hearlier List.not_mem_nil).1 hsplit
    have hreturned := hcalls.symm.trans ended.calls_eq
    rw [hfront] at hreturned
    exact ⟨hback.symm, .inr ⟨late, List.append_cancel_left hreturned, ended.late_eq⟩⟩

/-- However their steps interleave, the two parties stay in step. -/
theorem Run.inStep {world : World σ} {events : List (Event σ)} (h : Run (.start world) events s) :
    InStep events := by
  have hlevel : ∀ front event back exchange, events = front ++ event :: back →
      event.served? = some exchange → Level (Handoff.log front) [exchange.1] [] := by
    rintro front event back exchange rfl hserved
    obtain ⟨mid, after, hfront, hstep⟩ := h.stop
    exact hfront.inv.level_of_served hstep hserved
  have haccount := h.inv.phase.account
  constructor
  · intro front event back exchange hevents hserved
    have := hlevel front event back exchange hevents hserved
    exact ⟨this.sent_eq, by simpa [Handoff.log] using this.served_eq⟩
  · exact haccount.inOrder
  · exact haccount.paired
  · rintro front event back exchange rfl hserved hlast
    exact haccount.last (hlevel front event back exchange rfl hserved) hserved hlast
  · intro front call back cause hcalls hfailed
    exact haccount.failed hcalls hfailed

/-- How many steps the thread may yet make, as long as the dispatcher has not given up and sends
nothing more. -/
def State.stepsLeft (s : State σ) : ℕ :=
  match s.thread with
  | .waiting => 5 * s.requests.queue.length
  | .serving _ => 5 * s.requests.queue.length + 4
  | .sending _ => 5 * s.requests.queue.length + 3
  | .finished => s.requests.hasReceiver.toNat + s.messages.hasSender.toNat

/-- Each step of the thread is one less that is left, and a request adds five. -/
theorem Inv.stepsLeft_step (h : Inv log s) (stays : s.left = false) (hstep : Step s event t) :
    t.stepsLeft + event.ofThread.toNat ≤ s.stepsLeft + 5 * event.request?.toList.length := by
  cases hstep with
  | ask stays between isOpen =>
    cases hthread : s.thread <;>
      simp [State.stepsLeft, hthread, Channel.send, Event.ofThread, Event.request?] <;> omega
  | refuse | act | change => simp [State.stepsLeft, Event.ofThread, Event.request?]
  | receive | hangUp | leave =>
    simp [State.stepsLeft, Event.ofThread, Event.request?, Channel.next]
  | dropRequests hasLeft | dropMessages hasLeft => simp [hasLeft] at stays
  | take idle isNext =>
    obtain ⟨rest, hrest⟩ := List.head?_eq_some_iff.1 isNext
    simp [State.stepsLeft, idle, hrest, Channel.next, Event.ofThread, Event.request?]
    omega
  | dismiss idle isEmpty isClosed => simp [h.left (.inl isClosed)] at stays
  | read serves | fail serves =>
    simp [State.stepsLeft, serves, Event.ofThread, Event.request?]
  | @send message holds isOpen =>
    have hrequests := Bool.toNat_le s.requests.hasReceiver
    have hmessages := Bool.toNat_le s.messages.hasSender
    cases hlast : message.isLast with
    | true =>
      simp only [State.stepsLeft, holds, Thread.after_of_isLast hlast, Event.ofThread,
        Event.request?, Channel.send, Bool.toNat_true]
      omega
    | false =>
      simp [State.stepsLeft, holds, Thread.after_of_line hlast, Event.ofThread, Event.request?]
  | lose holds isClosed => simp [h.left (.inr isClosed)] at stays
  | closeRequests isOver isOpen =>
    simp only [State.stepsLeft, isOver, isOpen, Channel.dropReceiver, Event.ofThread,
      Event.request?, Bool.toNat_true, Bool.toNat_false]
    omega
  | closeMessages isOver isOpen =>
    simp [State.stepsLeft, isOver, isOpen, Channel.dropSender, Event.ofThread, Event.request?]

theorem State.place_eq {pending : Option Request} {thread : Thread} {requests : List Request}
    {messages : List Message} :
    s.place = ⟨pending, thread, requests, messages⟩ ↔
      s.pending = pending ∧ s.thread = thread ∧ s.requests.queue = requests ∧
        s.messages.queue = messages := by
  simp [State.place]

theorem Inv.stepsLeft_le (h : Inv log s) (stays : s.left = false) : s.stepsLeft ≤ 5 := by
  have hphase := h.phase_of_left stays
  have hrequests := Bool.toNat_le s.requests.hasReceiver
  have hmessages := Bool.toNat_le s.messages.hasSender
  generalize hplace : s.place = place at hphase
  cases hphase with
  | between | asked | serving | answered =>
    obtain ⟨-, hthread, hqueue, -⟩ := State.place_eq.1 hplace
    simp [State.stepsLeft, hthread, hqueue]
  | @replied request message =>
    obtain ⟨-, hthread, hqueue, -⟩ := State.place_eq.1 hplace
    cases hlast : message.isLast with
    | true =>
      simp only [State.stepsLeft, hthread, Thread.after_of_isLast hlast]
      omega
    | false => simp [State.stepsLeft, hthread, Thread.after_of_line hlast, hqueue]
  | ended =>
    obtain ⟨-, hthread, -, -⟩ := State.place_eq.1 hplace
    simp only [State.stepsLeft, hthread]
    omega
  | abandoned hasLeft => contradiction

theorem Step.left_eq (h : Step s event t) (hevent : event ≠ .left) : t.left = s.left := by
  cases h <;> first | rfl | contradiction

/-- A dispatcher that waits in a call sends nothing until the call returns. -/
theorem Step.waits {request : Request} (h : Step s event t) (waits : s.pending = some request)
    (hcall : event.call? = none) : t.pending = some request ∧ event.request? = none := by
  cases h with
  | ask _ between | refuse _ between => simp [waits] at between
  | receive | hangUp => simp [Event.call?] at hcall
  | _ => exact ⟨waits, rfl⟩

/-- What becomes of a call that a dispatcher waits in, as long as it does not give up. -/
structure Returns (s : State σ) (request : Request) : Prop where
  /-- The thread can make a step, or the call can return. -/
  possible : ∃ event t, Step s event t ∧ (event.ofThread = true ∨ event.call?.isSome)
  /-- The thread makes at most five steps before the call returns. -/
  soon : ∀ events t, Run s events t → Event.left ∉ events → calls events = [] →
    events.countP Event.ofThread ≤ 5

/-- Neither party waits for the other for ever. -/
theorem Inv.possible {request : Request} (h : Inv log s) (waits : s.pending = some request)
    (stays : s.left = false) :
    ∃ event t, Step s event t ∧ (event.ofThread = true ∨ event.call?.isSome) := by
  have hphase := h.phase_of_left stays
  generalize hplace : s.place = place at hphase
  cases hphase with
  | between =>
    obtain ⟨between, -⟩ := State.place_eq.1 hplace
    simp [between] at waits
  | asked =>
    obtain ⟨-, hthread, hrequests, -⟩ := State.place_eq.1 hplace
    exact ⟨_, _, .take hthread (by rw [hrequests]; rfl), .inl rfl⟩
  | serving =>
    obtain ⟨-, hthread, -, -⟩ := State.place_eq.1 hplace
    exact ⟨_, _, .read hthread rfl, .inl rfl⟩
  | answered =>
    obtain ⟨-, hthread, -, -⟩ := State.place_eq.1 hplace
    exact ⟨_, _, .send hthread (h.callerEnds stays).2, .inl rfl⟩
  | replied =>
    obtain ⟨-, -, -, hmessages⟩ := State.place_eq.1 hplace
    exact ⟨_, _, .receive stays waits (by rw [hmessages]; rfl), .inr rfl⟩
  | ended =>
    -- The thread drops its end of the second channel, and then the call is cut off.
    obtain ⟨-, hthread, -, hmessages⟩ := State.place_eq.1 hplace
    cases hsender : s.messages.hasSender with
    | true => exact ⟨_, _, .closeMessages hthread hsender, .inl rfl⟩
    | false => exact ⟨_, _, .hangUp stays waits hmessages hsender, .inr rfl⟩
  | abandoned hasLeft => contradiction

theorem Run.stepsLeft_le {world : World σ} {before events : List (Event σ)} {request : Request}
    (hs : Run (.start world) before s) (waits : s.pending = some request) (stays : s.left = false)
    (h : Run s events t) (hleft : Event.left ∉ events) (hcalls : calls events = []) :
    t.pending = some request ∧ t.left = false ∧
      t.stepsLeft + events.countP Event.ofThread ≤ s.stepsLeft := by
  induction h with
  | nil => exact ⟨waits, stays, by simp⟩
  | @snoc events mid t event hrun hstep ih =>
    rw [calls, filterMap_snoc, List.append_eq_nil_iff, Option.toList_eq_nil_iff] at hcalls
    rw [List.mem_append, List.mem_singleton, not_or] at hleft
    obtain ⟨hwaits, hstays, hcount⟩ := ih hleft.1 hcalls.1
    obtain ⟨hwaits', hrequest⟩ := hstep.waits hwaits hcalls.2
    have hsteps := (hs.append hrun).inv.stepsLeft_step hstays hstep
    rw [hrequest] at hsteps
    refine ⟨hwaits', (hstep.left_eq (Ne.symm hleft.2)).trans hstays, ?_⟩
    rw [countP_snoc]
    simp only [Option.toList_none, List.length_nil] at hsteps
    omega

/-- Every call returns, unless the dispatcher gives up. -/
theorem Run.returns {world : World σ} {before : List (Event σ)} {request : Request}
    (hs : Run (.start world) before s) (waits : s.pending = some request) (stays : s.left = false) :
    Returns s request where
  possible := hs.inv.possible waits stays
  soon events t h hleft hcalls := by
    have hcount := (hs.stepsLeft_le waits stays h hleft hcalls).2.2
    have hbound := hs.inv.stepsLeft_le stays
    omega

end LineShell.Input.Handoff
