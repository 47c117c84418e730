import LineShell.Input.Handoff
import Mathlib.Data.List.Basic

/-!
# Where two parties can be at once

Between the dispatcher and the thread there is never more than one request or one message on its
way, and which one it is, and where the two are with it, goes through a few phases (`Phase`): from a
request that was sent to the message that answers it, and once more, until the last message was
received. Every step goes from a phase to a phase, and so a run is always in one of them.
-/
namespace LineShell.Input.Handoff
variable {σ : Type}

/-- What the events of a run come to. -/
structure Log where
  sent : List Request
  served : List Exchange
  received : List Exchange
  calls : List Exchange

def log (events : List (Event σ)) : Log :=
  ⟨sent events, served events, received events, calls events⟩

def Log.add (log : Log) (event : Event σ) : Log :=
  ⟨log.sent ++ event.request?.toList, log.served ++ event.served?.toList,
    log.received ++ event.received?.toList, log.calls ++ event.call?.toList⟩

theorem filterMap_snoc {α β : Type} (f : α → Option β) (as : List α) (a : α) :
    (as ++ [a]).filterMap f = as.filterMap f ++ (f a).toList := by
  rw [List.filterMap_append, List.filterMap_cons]
  cases f a <;> rfl

theorem countP_snoc {α : Type} (p : α → Bool) (as : List α) (a : α) :
    (as ++ [a]).countP p = as.countP p + (p a).toNat := by
  rw [List.countP_append, List.countP_singleton]
  cases p a <;> rfl

theorem log_snoc (events : List (Event σ)) (event : Event σ) :
    log (events ++ [event]) = (log events).add event := by
  simp only [log, Log.add, sent, served, received, calls, filterMap_snoc]

namespace Log
variable (log : Log) (request : Request) (message : Message)

/-- What an event is not adds nothing. -/
theorem append_nil :
    (⟨log.sent ++ [], log.served ++ [], log.received ++ [], log.calls ++ []⟩ : Log) = log := by
  simp only [List.append_nil]

@[simp] theorem add_asked :
    log.add (.asked request : Event σ) = { log with sent := log.sent ++ [request] } := by
  change mk _ (log.served ++ []) (log.received ++ []) (log.calls ++ []) = mk _ _ _ _
  simp only [List.append_nil]
  rfl

@[simp] theorem add_received :
    log.add (.received request message : Event σ) =
      { log with
        received := log.received ++ [(request, message)]
        calls := log.calls ++ [(request, message)] } := by
  change mk (log.sent ++ []) (log.served ++ []) _ _ = mk _ _ _ _
  simp only [List.append_nil]
  rfl

@[simp] theorem add_cutOff :
    log.add (.cutOff request : Event σ) =
      { log with calls := log.calls ++ [(request, .endOfInput)] } := by
  change mk (log.sent ++ []) (log.served ++ []) (log.received ++ []) _ = mk _ _ _ _
  simp only [List.append_nil]
  rfl

@[simp] theorem add_refused :
    log.add (.refused request : Event σ) =
      { log with calls := log.calls ++ [(request, .endOfInput)] } :=
  @add_cutOff σ log request

theorem add_of_served {event : Event σ} {exchange : Exchange}
    (hserved : event.served? = some exchange) :
    log.add event = { log with served := log.served ++ [exchange] } := by
  cases event with
  | read | unprompted =>
    change mk (log.sent ++ []) _ (log.received ++ []) (log.calls ++ []) = mk _ _ _ _
    rw [hserved]
    simp only [List.append_nil]
    rfl
  | asked | received | cutOff | refused | inside | left | acted | elsewhere => contradiction

@[simp] theorem add_inside : log.add (.inside : Event σ) = log :=
  log.append_nil

@[simp] theorem add_left : log.add (.left : Event σ) = log :=
  log.append_nil

@[simp] theorem add_acted : log.add (.acted : Event σ) = log :=
  log.append_nil

@[simp] theorem add_elsewhere : log.add (.elsewhere : Event σ) = log :=
  log.append_nil

end Log

/-- Every message was received, but for what the thread has come to for the requests that are
outstanding; and all of them were lines. -/
structure Level (log : Log) (outstanding : List Request) (unreceived : List Exchange) : Prop where
  sent_eq : log.sent = log.calls.map Prod.fst ++ outstanding
  served_eq : log.served = log.calls ++ unreceived
  received_eq : log.received = log.calls
  lines : ∀ call ∈ log.calls, call.2.isLast = false

/-- The last message was received, and there were calls after it. -/
structure Ended (log : Log) (earlier : List Exchange) (last : Exchange) (late : List Exchange) :
    Prop where
  served_eq : log.served = earlier ++ [last]
  received_eq : log.received = earlier ++ [last]
  calls_eq : log.calls = earlier ++ last :: late
  sent_of : (earlier ++ [last]).map Prod.fst <+: log.sent
  lines : ∀ call ∈ earlier, call.2.isLast = false
  isLast : last.2.isLast = true
  late_eq : ∀ call ∈ late, call.2 = .endOfInput

/-- What is so of a log wherever the parties are. -/
inductive Account (log : Log) : Prop
  | level {outstanding : List Request} {unreceived : List Exchange}
      (level : Level log outstanding unreceived)
      (forRequests : unreceived.map Prod.fst <+: outstanding) (one : unreceived.length ≤ 1)
  | ended {earlier late : List Exchange} {last : Exchange} (ended : Ended log earlier last late)

/-- Where the parties are, and what is on its way between them. -/
structure Place where
  pending : Option Request
  thread : Thread
  requests : List Request
  messages : List Message

def State.place (s : State σ) : Place :=
  ⟨s.pending, s.thread, s.requests.queue, s.messages.queue⟩

theorem Thread.after_of_isLast {message : Message} (h : message.isLast = true) :
    Thread.after message = .finished := by
  rw [Thread.after, if_pos h]

theorem Thread.after_of_line {message : Message} (h : message.isLast = false) :
    Thread.after message = .waiting := by
  rw [Thread.after, h]
  rfl

theorem Thread.after_ne_serving (message : Message) (request : Request) :
    Thread.after message ≠ .serving request := by
  cases message <;> simp [Thread.after, Message.isLast]

theorem Thread.after_ne_sending (message other : Message) :
    Thread.after message ≠ .sending other := by
  cases message <;> simp [Thread.after, Message.isLast]

/-- Where the parties can be at once, by what the log has come to and whether the dispatcher has
given up. -/
inductive Phase (log : Log) (left : Bool) : Place → Prop
  | between (level : Level log [] []) : Phase log left ⟨none, .waiting, [], []⟩
  | asked {request : Request} (level : Level log [request] []) :
      Phase log left ⟨some request, .waiting, [request], []⟩
  | serving {request : Request} (level : Level log [request] []) :
      Phase log left ⟨some request, .serving request, [], []⟩
  | answered {request : Request} {message : Message}
      (level : Level log [request] [(request, message)]) :
      Phase log left ⟨some request, .sending message, [], []⟩
  | replied {request : Request} {message : Message}
      (level : Level log [request] [(request, message)]) :
      Phase log left ⟨some request, .after message, [], [message]⟩
  | ended {pending : Option Request} {requests : List Request} {earlier late : List Exchange}
      {last : Exchange} (ended : Ended log earlier last late) :
      Phase log left ⟨pending, .finished, requests, []⟩
  | abandoned {place : Place} (hasLeft : left = true) (isOver : place.thread = .finished)
      (account : Account log) : Phase log left place

section Steps
variable {log : Log} {left : Bool} {place : Place} {request : Request} {message : Message}

theorem Level.asked (h : Level log [] []) :
    Level (log.add (.asked request : Event σ)) [request] [] := by
  rw [Log.add_asked]
  exact { h with sent_eq := by simp [h.sent_eq] }

theorem Level.served {event : Event σ} (h : Level log [request] [])
    (hserved : event.served? = some (request, message)) :
    Level (log.add event) [request] [(request, message)] := by
  rw [log.add_of_served hserved]
  exact { h with served_eq := by simp [h.served_eq] }

theorem Level.received (h : Level log [request] [(request, message)])
    (hline : message.isLast = false) :
    Level (log.add (.received request message : Event σ)) [] [] := by
  rw [Log.add_received]
  exact
    { sent_eq := by simp [h.sent_eq]
      served_eq := by simp [h.served_eq]
      received_eq := by simp [h.received_eq]
      lines := by simpa [or_imp, forall_and, hline] using h.lines }

theorem Level.ended (h : Level log [request] [(request, message)]) (hlast : message.isLast = true) :
    Ended (log.add (.received request message : Event σ)) log.calls (request, message) [] := by
  rw [Log.add_received]
  exact
    { served_eq := h.served_eq
      received_eq := by simp [h.received_eq]
      calls_eq := rfl
      sent_of := by simp [h.sent_eq]
      lines := h.lines
      isLast := hlast
      late_eq := by simp }

variable {earlier late : List Exchange} {last : Exchange}

theorem Ended.asked (h : Ended log earlier last late) :
    Ended (log.add (.asked request : Event σ)) earlier last late := by
  rw [Log.add_asked]
  exact { h with sent_of := h.sent_of.trans (List.prefix_append _ _) }

/-- After the last message a call returns the end of the input, without having received it. -/
theorem Ended.called (h : Ended log earlier last late) :
    Ended { log with calls := log.calls ++ [(request, .endOfInput)] } earlier last
      (late ++ [(request, .endOfInput)]) :=
  { h with
    calls_eq := by simp [h.calls_eq]
    late_eq := by simpa [or_imp, forall_and] using h.late_eq }

theorem Ended.served_eq_received (h : Ended log earlier last late) : log.served = log.received :=
  h.served_eq.trans h.received_eq.symm

theorem Ended.any_isLast (h : Ended log earlier last late) :
    log.served.any (·.2.isLast) = true := by
  simp [h.served_eq, h.isLast]

/-- Before the last message was received, the parties are level. -/
theorem Phase.account (h : Phase log left place) : Account log := by
  cases h with
  | between level | asked level | serving level => exact .level level (by simp) (by simp)
  | answered level | replied level => exact .level level (by simp) (by simp)
  | ended ended => exact .ended ended
  | abandoned _ _ account => exact account

/-- What the dispatcher does when it gives up changes nothing but that. -/
theorem Phase.leave (h : Phase log left place) : Phase log true place := by
  cases h with
  | between level => exact .between level
  | asked level => exact .asked level
  | serving level => exact .serving level
  | answered level => exact .answered level
  | replied level => exact .replied level
  | ended ended => exact .ended ended
  | abandoned _ isOver account => exact .abandoned rfl isOver account

/-- A request is sent where the parties are level, or where the last message was received. -/
theorem Phase.ask (h : Phase log false place) (between : place.pending = none) :
    Phase (log.add (.asked request : Event σ)) false
      { place with requests := place.requests ++ [request], pending := some request } := by
  cases h with
  | between level => exact .asked level.asked
  | ended ended => exact .ended ended.asked
  | abandoned hasLeft => contradiction
  | asked | serving | answered | replied => contradiction

/-- Out of a call, a thread that is out of its loop has sent its last message, and it was
received. -/
theorem Phase.ended_of_between (h : Phase log false place) (between : place.pending = none)
    (isOver : place.thread = .finished) :
    place.messages = [] ∧ ∃ earlier last late, Ended log earlier last late := by
  cases h with
  | ended ended => exact ⟨rfl, _, _, _, ended⟩
  | abandoned hasLeft => contradiction
  | between | asked | serving | answered | replied => contradiction

/-- Out of a call, all that the thread has come to was received. -/
theorem Phase.served_eq (h : Phase log false place) (between : place.pending = none) :
    log.served = log.received := by
  cases h with
  | between level => rw [level.received_eq, level.served_eq, List.append_nil]
  | ended ended => exact ended.served_eq_received
  | abandoned hasLeft => contradiction
  | asked | serving | answered | replied => contradiction

/-- In a call that nothing is on its way to, a thread that is out of its loop has sent its last
message to a call before. -/
theorem Phase.ended_of_nil (h : Phase log false place) (isOver : place.thread = .finished)
    (isEmpty : place.messages = []) : ∃ earlier last late, Ended log earlier last late := by
  cases h with
  | ended ended => exact ⟨_, _, _, ended⟩
  | replied => simp at isEmpty
  | abandoned hasLeft => contradiction
  | between | asked | serving | answered => contradiction

/-- A call that returns without a message leaves the parties where the last message was received. -/
theorem Phase.called {pending : Option Request} (isOver : place.thread = .finished)
    (isEmpty : place.messages = []) (h : ∃ earlier last late, Ended log earlier last late) :
    Phase { log with calls := log.calls ++ [(request, .endOfInput)] } left
      { place with pending } := by
  obtain ⟨pending', thread, requests, messages⟩ := place
  obtain rfl : thread = .finished := isOver
  obtain rfl : messages = [] := isEmpty
  obtain ⟨earlier, last, late, ended⟩ := h
  exact .ended ended.called

/-- A message that is on its way is the one that the thread has come to for the call. -/
theorem Phase.level_of_replied (h : Phase log false place) (waits : place.pending = some request)
    (isNext : place.messages.head? = some message) :
    place = ⟨some request, .after message, [], [message]⟩ ∧
      Level log [request] [(request, message)] := by
  cases h with
  | @replied request' message' level =>
    obtain rfl : request' = request := by simpa using waits
    obtain rfl : message' = message := by simpa using isNext
    exact ⟨rfl, level⟩
  | abandoned hasLeft => contradiction
  | between | asked | serving | answered | ended => simp at isNext

/-- The thread reads for the one request that is outstanding. -/
theorem Phase.level_of_serving (h : Phase log left place)
    (serves : place.thread = .serving request) :
    place = ⟨some request, .serving request, [], []⟩ ∧ Level log [request] [] := by
  cases h with
  | @serving request' level =>
    obtain rfl : request' = request := by simpa using serves
    exact ⟨rfl, level⟩
  | replied => exact absurd serves (Thread.after_ne_serving _ _)
  | abandoned _ isOver => simp [isOver] at serves
  | between | asked | answered | ended => contradiction

theorem Phase.receive (h : Phase log false place) (waits : place.pending = some request)
    (isNext : place.messages.head? = some message) :
    Phase (log.add (.received request message : Event σ)) false
      { place with messages := place.messages.tail, pending := none } := by
  obtain ⟨rfl, level⟩ := h.level_of_replied waits isNext
  change Phase _ false ⟨none, .after message, [], []⟩
  cases hlast : message.isLast with
  | true =>
    rw [Thread.after_of_isLast hlast]
    exact .ended (level.ended hlast)
  | false =>
    rw [Thread.after_of_line hlast]
    exact .between (level.received hlast)

theorem Phase.take (h : Phase log left place) (idle : place.thread = .waiting)
    (isNext : place.requests.head? = some request) :
    Phase log left { place with requests := place.requests.tail, thread := .serving request } := by
  cases h with
  | @asked request' level =>
    obtain rfl : request' = request := by simpa using isNext
    exact .serving level
  | between | replied => simp at isNext
  | abandoned _ isOver => simp [isOver] at idle
  | serving | answered | ended => contradiction

theorem Phase.abandon (h : Phase log true place) :
    Phase log true { place with thread := .finished } :=
  .abandoned rfl rfl h.account

theorem Phase.serve {event : Event σ} (h : Phase log left place)
    (serves : place.thread = .serving request)
    (hserved : event.served? = some (request, message)) :
    Phase (log.add event) left { place with thread := .sending message } := by
  obtain ⟨rfl, level⟩ := h.level_of_serving serves
  exact .answered (level.served hserved)

theorem Phase.send (h : Phase log left place) (holds : place.thread = .sending message) :
    Phase log left
      { place with messages := place.messages ++ [message], thread := .after message } := by
  cases h with
  | @answered request message' level =>
    obtain rfl : message' = message := by simpa using holds
    exact .replied level
  | replied => exact absurd holds (Thread.after_ne_sending _ _)
  | abandoned _ isOver => simp [isOver] at holds
  | between | asked | serving | ended => contradiction

end Steps

/-- What holds of a state that a run has come to, by what the run's events come to. -/
structure Inv (log : Log) (s : State σ) : Prop where
  /-- The thread holds its ends of the channels as long as it is in its loop. -/
  threadEnds : s.thread ≠ .finished → s.requests.hasReceiver = true ∧ s.messages.hasSender = true
  callerEnds : s.left = false → s.requests.hasSender = true ∧ s.messages.hasReceiver = true
  phase : Phase log s.left s.place

theorem Inv.start (world : World σ) : Inv (log ([] : List (Event σ))) (State.start world) where
  threadEnds _ := ⟨rfl, rfl⟩
  callerEnds _ := ⟨rfl, rfl⟩
  phase := .between ⟨rfl, rfl, rfl, by simp [log, calls]⟩

variable {log : Log} {s t : State σ} {event : Event σ}

/-- An end that the thread has dropped tells that it is out of its loop. -/
theorem Inv.finished (h : Inv log s)
    (isClosed : s.requests.hasReceiver = false ∨ s.messages.hasSender = false) :
    s.thread = .finished := by
  by_contra hne
  obtain ⟨hrequests, hmessages⟩ := h.threadEnds hne
  simp_all

/-- An end that the dispatcher has dropped tells that it has given up. -/
theorem Inv.left (h : Inv log s)
    (isClosed : s.requests.hasSender = false ∨ s.messages.hasReceiver = false) : s.left = true := by
  by_contra hne
  obtain ⟨hrequests, hmessages⟩ := h.callerEnds (by simpa using hne)
  simp_all

theorem Inv.phase_of_left {left : Bool} (h : Inv log s) (hleft : s.left = left) :
    Phase log left s.place :=
  hleft ▸ h.phase

/-- What holds of a state holds after each step that can be taken there. -/
theorem Inv.step (h : Inv log s) (hstep : Step s event t) : Inv (log.add event) t := by
  cases hstep with
  | ask stays between isOpen =>
    refine ⟨h.threadEnds, h.callerEnds, ?_⟩
    exact stays ▸ (h.phase_of_left stays).ask between
  | refuse stays between isClosed =>
    have isOver := h.finished (.inl isClosed)
    obtain ⟨isEmpty, ended⟩ := (h.phase_of_left stays).ended_of_between between isOver
    rw [Log.add_refused]
    exact ⟨h.threadEnds, h.callerEnds, Phase.called isOver isEmpty ended⟩
  | receive stays waits isNext =>
    refine ⟨h.threadEnds, h.callerEnds, ?_⟩
    exact stays ▸ (h.phase_of_left stays).receive waits isNext
  | hangUp stays waits isEmpty isClosed =>
    have isOver := h.finished (.inr isClosed)
    have noMessage : s.place.messages = [] := isEmpty
    have ended := (h.phase_of_left stays).ended_of_nil isOver noMessage
    rw [Log.add_cutOff]
    exact ⟨h.threadEnds, h.callerEnds, Phase.called isOver noMessage ended⟩
  | leave stays =>
    rw [Log.add_left]
    exact ⟨h.threadEnds, by simp, h.phase.leave⟩
  | dropRequests hasLeft isOpen =>
    rw [Log.add_left]
    exact ⟨h.threadEnds, by simp [hasLeft], h.phase⟩
  | dropMessages hasLeft isOpen =>
    rw [Log.add_left]
    exact ⟨h.threadEnds, by simp [hasLeft], h.phase⟩
  | take idle isNext =>
    rw [Log.add_inside]
    exact ⟨fun _ => h.threadEnds (by simp [idle]), h.callerEnds, h.phase.take idle isNext⟩
  | dismiss idle isEmpty isClosed =>
    rw [Log.add_inside]
    have hleft := h.left (.inl isClosed)
    exact ⟨by simp, h.callerEnds, hleft ▸ (h.phase_of_left hleft).abandon⟩
  | read serves answers =>
    exact ⟨fun _ => h.threadEnds (by simp [serves]), h.callerEnds, h.phase.serve serves rfl⟩
  | fail serves =>
    exact ⟨fun _ => h.threadEnds (by simp [serves]), h.callerEnds, h.phase.serve serves rfl⟩
  | send holds isOpen =>
    rw [Log.add_inside]
    exact ⟨fun _ => h.threadEnds (by simp [holds]), h.callerEnds, h.phase.send holds⟩
  | lose holds isClosed =>
    rw [Log.add_inside]
    have hleft := h.left (.inr isClosed)
    exact ⟨by simp, h.callerEnds, hleft ▸ (h.phase_of_left hleft).abandon⟩
  | closeRequests isOver isOpen =>
    rw [Log.add_inside]
    exact ⟨by simp [isOver], h.callerEnds, h.phase⟩
  | closeMessages isOver isOpen =>
    rw [Log.add_inside]
    exact ⟨by simp [isOver], h.callerEnds, h.phase⟩
  | act world =>
    rw [Log.add_acted]
    exact ⟨h.threadEnds, h.callerEnds, h.phase⟩
  | change world =>
    rw [Log.add_elsewhere]
    exact ⟨h.threadEnds, h.callerEnds, h.phase⟩

/-- What holds at the start and after each step holds wherever a run comes to. -/
theorem Run.inv {world : World σ} {events : List (Event σ)} (h : Run (.start world) events s) :
    Inv (Handoff.log events) s := by
  induction h with
  | nil => exact .start world
  | snoc _ hstep ih =>
    rw [log_snoc]
    exact ih.step hstep

end LineShell.Input.Handoff
