import LineShell.Proofs.Timeline

/-!
# How a process is ended

Whatever the system answers, a process is ended in one of a few ways. It is asked to end, once and
before all else. It is then looked at until a look finds it gone or the deadline has passed, and the
last look comes after the deadline. It is killed only if every look has found it, and at most once.
-/
namespace LineShell

/-- The error that tells why a signal could not be sent. -/
def ShellError.ofSignal (pid : Pid) (e : Errno) : ShellError :=
  if e = .noProcess then .noSuchProcess pid
  else if e = .notPermitted then .permission s!"cannot signal process {pid}"
  else .ofErrno e

/-- Only a process that is not there is reported as such. -/
theorem ShellError.ofSignal_ne (pid : Pid) {e : Errno} (h : e ≠ .noProcess) (p : Pid) :
    ShellError.ofSignal pid e ≠ .noSuchProcess p := by
  unfold ofSignal ofErrno
  rw [if_neg h]
  split_ifs <;> simp

/-- A look at a process: the answer to a signal that does nothing, and the status line, which is
read if there was a process to send the signal to. -/
structure Look where
  signal : Reply (Except Errno Unit)
  status : Option (Reply (Option String))

namespace Look

/-- What is asked by a look. -/
def probes (pid : Pid) (look : Look) : List Probe :=
  .signal pid none look.signal :: look.status.toList.map (.status pid)

/-- Whether a look has found a process that is no zombie. -/
def alive (look : Look) : Bool :=
  match look.signal.answer, look.status with
  | .ok (), some status => (status.answer.bind ProcessInfo.ofStat?).all (·.state != .zombie)
  | _, _ => false

end Look

namespace System
variable {σ : Type} (sys : System σ) (pid : Pid) (world : World σ) (record : List Probe)

/-! ## One signal and one look -/

theorem send_eq (signal : Option Signal) :
    sys.send pid signal world =
      ((sys.signal pid signal world).1.mapError (.ofSignal pid),
        (sys.signal pid signal world).2) := by
  unfold send ShellError.ofSignal
  obtain ⟨e | ⟨⟩, after⟩ := sys.signal pid signal world
  · dsimp only [Except.mapError]
    split_ifs <;> rfl
  · rfl

theorem send_timed (signal : Option Signal) :
    sys.timed.send pid signal (world.timed record) =
      ((sys.send pid signal world).1, (sys.send pid signal world).2.timed
        (record ++ [.signal pid signal (sys.signalReply pid signal world)])) := by
  rw [send_eq, send_eq, signal_timed]

/-- What a look at a process finds. -/
def look : Look where
  signal := sys.signalReply pid none world
  status :=
    match sys.signal pid none world with
    | (.ok (), after) => some (sys.statusReply pid after)
    | (.error _, _) => none

theorem isAlive_timed :
    sys.timed.isAlive pid (world.timed record) =
      ((sys.isAlive pid world).1, (sys.isAlive pid world).2.timed
        (record ++ (sys.look pid world).probes pid)) := by
  unfold isAlive
  rw [send_timed, send_eq]
  simp only [look, Look.probes]
  generalize sys.signalReply pid none world = reply
  obtain ⟨e | ⟨⟩, after⟩ := sys.signal pid none world
  · rfl
  · simp only [Except.mapError, stat_timed]
    simp

theorem alive_look : (sys.look pid world).alive = (sys.isAlive pid world).1 := by
  unfold isAlive
  rw [send_eq]
  simp only [look, Look.alive, signalReply]
  obtain ⟨e | ⟨⟩, after⟩ := sys.signal pid none world
  · rfl
  · rfl

/-! ## Looking until the deadline -/

/-- The looks that are taken until a process is gone or a deadline has passed. -/
structure Awaits (deadline : ℕ) (gone : Bool) (front : List Look) (last : Look) : Prop where
  early : ∀ look ∈ front, look.signal.asked < deadline ∧ look.alive = true
  verdict : last.alive = !gone
  late : gone = false → deadline ≤ last.signal.asked

section
variable {sys pid world} {deadline : ℕ}

theorem awaitEnd_of_gone (h : (sys.isAlive pid world).1 = false) :
    sys.awaitEnd pid deadline world = (true, (sys.isAlive pid world).2) := by
  rw [awaitEnd]
  simp [h]

theorem awaitEnd_of_early (h : (sys.isAlive pid world).1 = true)
    (hearly : sys.now world < deadline) :
    sys.awaitEnd pid deadline world =
      sys.awaitEnd pid deadline (sys.pause pollInterval (sys.isAlive pid world).2) := by
  rw [awaitEnd]
  simp [h, hearly]

theorem awaitEnd_of_late (h : (sys.isAlive pid world).1 = true)
    (hlate : ¬ sys.now world < deadline) :
    sys.awaitEnd pid deadline world = (false, (sys.isAlive pid world).2) := by
  rw [awaitEnd]
  simp [h, hlate]

end

/-- Every look but the last comes before the deadline and finds the process. -/
theorem awaitEnd_timed (deadline : ℕ) :
    ∃ front last,
      sys.timed.awaitEnd pid deadline (world.timed record) =
        ((sys.awaitEnd pid deadline world).1, (sys.awaitEnd pid deadline world).2.timed
          (record ++ (front ++ [last]).flatMap (Look.probes pid))) ∧
      Awaits deadline (sys.awaitEnd pid deadline world).1 front last ∧
      last.signal.asked ≤ sys.now (sys.awaitEnd pid deadline world).2 := by
  have htimed (world : World σ) (record : List Probe) :
      (sys.timed.isAlive pid (world.timed record)).1 = (sys.isAlive pid world).1 := by
    rw [isAlive_timed]
  induction world using awaitEnd.induct sys pid deadline generalizing record with
  | case1 world alive hgone =>
    have hdead : (sys.isAlive pid world).1 = false := by simpa [alive] using hgone
    rw [awaitEnd_of_gone hdead, awaitEnd_of_gone ((htimed world record).trans hdead),
      isAlive_timed]
    refine ⟨[], sys.look pid world, by simp, ⟨by simp, ?_, by simp⟩, now_isAlive sys pid world⟩
    rw [alive_look, hdead]
    rfl
  | case2 world alive hfound hearly ih =>
    have halive : (sys.isAlive pid world).1 = true := by simpa [alive] using hfound
    obtain ⟨front, last, hrest, hawaits, hlast⟩ := ih (record ++ (sys.look pid world).probes pid)
    rw [awaitEnd_of_early halive hearly,
      awaitEnd_of_early ((htimed world record).trans halive) hearly, isAlive_timed, pause_timed]
    refine ⟨sys.look pid world :: front, last, ?_, ⟨?_, hawaits.verdict, hawaits.late⟩, hlast⟩
    · rw [hrest, List.cons_append, List.flatMap_cons, List.append_assoc]
    · rw [List.forall_mem_cons]
      exact ⟨⟨hearly, (alive_look ..).trans halive⟩, hawaits.early⟩
  | case3 world alive hfound hlate =>
    have halive : (sys.isAlive pid world).1 = true := by simpa [alive] using hfound
    rw [awaitEnd_of_late halive hlate, awaitEnd_of_late ((htimed world record).trans halive) hlate,
      isAlive_timed]
    refine ⟨[], sys.look pid world, by simp, ⟨by simp, ?_, fun _ => Nat.not_lt.1 hlate⟩,
      now_isAlive sys pid world⟩
    rw [alive_look, halive]
    rfl

/-! ## The whole -/

/-- What a process is told and how it is looked at while it is ended: it is asked to end, then
looked at, and then perhaps killed. -/
def endingProbes (pid : Pid) (asked : Reply (Except Errno Unit)) (looks : List Look)
    (killed : Option (Reply (Except Errno Unit))) : List Probe :=
  .signal pid (some .terminate) asked :: looks.flatMap (Look.probes pid) ++
    killed.toList.map (.signal pid (some .kill))

/-- How a process is ended that has `timeout` milliseconds to go away. -/
structure EndsInOrder (pid : Pid) (timeout : ℕ) (asked : Reply (Except Errno Unit))
    (looks : List Look) (killed : Option (Reply (Except Errno Unit)))
    (result : Except ShellError Termination) : Prop where
  /-- Nothing follows if it cannot be asked to end. -/
  refused : ∀ e, asked.answer = .error e →
    looks = [] ∧ killed = none ∧ result = .error (.ofSignal pid e)
  /-- Otherwise it is looked at. -/
  looked : asked.answer = .ok () → looks ≠ []
  /-- A look that does not find it is the last, and nothing follows. -/
  gone : ∀ look ∈ looks, look.alive = false →
    looks.getLast? = some look ∧ killed = none ∧ result = .ok .graceful
  /-- It is killed when all looks have found it, of which the last came after the deadline. -/
  killed_late : ∀ kill, killed = some kill → asked.given + timeout ≤ kill.asked ∧
    (∀ look ∈ looks, look.alive = true) ∧
    ∃ last, looks.getLast? = some last ∧ asked.given + timeout ≤ last.signal.asked
  /-- When all looks have found it, it is killed. -/
  killed_of_alive : asked.answer = .ok () → (∀ look ∈ looks, look.alive = true) →
    killed.isSome = true
  forced_iff : result = .ok .forced ↔ ∃ kill, killed = some kill ∧ kill.answer = .ok ()
  /-- It may have gone away before it could be killed. -/
  lost : ∀ kill, killed = some kill → kill.answer = .error .noProcess → result = .ok .graceful
  failed : ∀ kill e, killed = some kill → kill.answer = .error e → e ≠ .noProcess →
    result = .error (.ofSignal pid e)

variable {pid} {timeout : ℕ} {asked kill : Reply (Except Errno Unit)} {front : List Look}
  {last : Look}

theorem endsInOrder_of_refused {e : Errno} (h : asked.answer = .error e) :
    EndsInOrder pid timeout asked [] none (.error (.ofSignal pid e)) := by
  constructor <;> simp [h]

theorem endsInOrder_of_gone {deadline : ℕ} (h : asked.answer = .ok ())
    (hawaits : Awaits deadline true front last) :
    EndsInOrder pid timeout asked (front ++ [last]) none (.ok .graceful) := by
  have hlast : last.alive = false := hawaits.verdict
  constructor
  case gone =>
    intro look hlook hdead
    obtain hearly | hlook := List.mem_append.1 hlook
    · have halive := (hawaits.early look hearly).2
      rw [hdead] at halive
      contradiction
    · obtain rfl := List.mem_singleton.1 hlook
      exact ⟨List.getLast?_concat, rfl, rfl⟩
  case killed_of_alive =>
    intro _ hall
    have halive := hall last (by simp)
    rw [hlast] at halive
    contradiction
  all_goals simp [h]

/-- What comes of an attempt to kill. -/
def killResult (pid : Pid) : Except Errno Unit → Except ShellError Termination
  | .ok () => .ok .forced
  | .error e => if e = .noProcess then .ok .graceful else .error (.ofSignal pid e)

theorem endsInOrder_of_killed (h : asked.answer = .ok ())
    (hawaits : Awaits (asked.given + timeout) false front last)
    (hkill : last.signal.asked ≤ kill.asked) :
    EndsInOrder pid timeout asked (front ++ [last]) (some kill) (killResult pid kill.answer) := by
  have hall : ∀ look ∈ front ++ [last], look.alive = true := by
    rw [List.forall_mem_append, List.forall_mem_singleton]
    exact ⟨fun look hlook => (hawaits.early look hlook).2, hawaits.verdict⟩
  have hlate := hawaits.late rfl
  constructor
  case refused => simp [h]
  case looked => simp
  case gone =>
    intro look hlook hdead
    rw [hall look hlook] at hdead
    contradiction
  case killed_late =>
    rintro _ ⟨⟩
    exact ⟨Nat.le_trans hlate hkill, hall, last, List.getLast?_concat, hlate⟩
  case killed_of_alive => simp
  case forced_iff =>
    obtain ⟨_, _, e | ⟨⟩⟩ := kill
    · simp only [killResult]
      split_ifs <;> simp
    · simp [killResult]
  case lost =>
    rintro _ ⟨⟩ hlost
    simp [killResult, hlost]
  case failed =>
    rintro _ e ⟨⟩ hfailed hne
    simp [killResult, hfailed, hne]

section
variable {sys} {world told after : World σ}

theorem terminate_of_refused {e : Errno}
    (h : sys.signal pid (some .terminate) world = (.error e, told)) :
    sys.terminate pid timeout world = (.error (.ofSignal pid e), told) := by
  rw [terminate, send_eq, h]
  rfl

theorem terminate_of_gone (h : sys.signal pid (some .terminate) world = (.ok (), told))
    (hgone : sys.awaitEnd pid (sys.now told + timeout) (sys.pause 0 told) = (true, after)) :
    sys.terminate pid timeout world = (.ok .graceful, after) := by
  rw [terminate, send_eq, h]
  simp only [Except.mapError, hgone]

theorem terminate_of_found (h : sys.signal pid (some .terminate) world = (.ok (), told))
    (hfound : sys.awaitEnd pid (sys.now told + timeout) (sys.pause 0 told) = (false, after)) :
    sys.terminate pid timeout world =
      (killResult pid (sys.signal pid (some .kill) after).1,
        (sys.signal pid (some .kill) after).2) := by
  rw [terminate, send_eq, h]
  simp only [Except.mapError, hfound]
  rw [send_eq]
  obtain ⟨e | ⟨⟩, killed⟩ := sys.signal pid (some .kill) after
  · -- no other error is taken for a process that has gone away
    by_cases hlost : e = .noProcess
    · subst hlost
      simp [Except.mapError, killResult, ShellError.ofSignal]
    · have hne := ShellError.ofSignal_ne pid hlost
      simp only [Except.mapError, killResult, if_neg hlost]
  · rfl

end

/-- The ways in which the end of a process comes about: it cannot be told to end, it is found to be
gone, or it is killed. -/
inductive Ending (pid : Pid) (timeout : ℕ) : Reply (Except Errno Unit) → List Look →
    Option (Reply (Except Errno Unit)) → Except ShellError Termination → Prop
  | refused {asked : Reply (Except Errno Unit)} {e : Errno} : asked.answer = .error e →
      Ending pid timeout asked [] none (.error (.ofSignal pid e))
  | gone {asked : Reply (Except Errno Unit)} {front : List Look} {last : Look} :
      asked.answer = .ok () → Awaits (asked.given + timeout) true front last →
      Ending pid timeout asked (front ++ [last]) none (.ok .graceful)
  | killed {asked kill : Reply (Except Errno Unit)} {front : List Look} {last : Look} :
      asked.answer = .ok () → Awaits (asked.given + timeout) false front last →
      last.signal.asked ≤ kill.asked →
      Ending pid timeout asked (front ++ [last]) (some kill) (killResult pid kill.answer)

theorem Ending.endsInOrder {looks : List Look} {killed : Option (Reply (Except Errno Unit))}
    {result : Except ShellError Termination} (h : Ending pid timeout asked looks killed result) :
    EndsInOrder pid timeout asked looks killed result := by
  cases h with
  | refused h => exact endsInOrder_of_refused h
  | gone h hawaits => exact endsInOrder_of_gone h hawaits
  | killed h hawaits hkill => exact endsInOrder_of_killed h hawaits hkill

/-- A process is ended in one of these ways, and keeping a record changes nothing. -/
theorem terminate_timed (pid : Pid) (timeout : ℕ) (world : World σ) (record : List Probe) :
    ∃ asked looks killed,
      sys.timed.terminate pid timeout (world.timed record) =
        ((sys.terminate pid timeout world).1, (sys.terminate pid timeout world).2.timed
          (record ++ endingProbes pid asked looks killed)) ∧
      Ending pid timeout asked looks killed (sys.terminate pid timeout world).1 := by
  let asked := sys.signalReply pid (some .terminate) world
  have htimed := sys.signal_timed world record pid (some .terminate)
  rcases hsignal : sys.signal pid (some .terminate) world with ⟨answer, told⟩
  have hasked : asked.answer = answer := by simp [asked, signalReply, hsignal]
  have hgiven : asked.given = sys.now told := by simp [asked, signalReply, hsignal]
  rw [hsignal] at htimed
  obtain e | ⟨⟩ := answer
  · refine ⟨asked, [], none, ?_, ?_⟩
    · rw [terminate_of_refused htimed, terminate_of_refused hsignal]
      rfl
    · rw [terminate_of_refused hsignal]
      exact .refused hasked
  · obtain ⟨front, last, hwait, hawaits, hlast⟩ := sys.awaitEnd_timed pid (sys.pause 0 told)
      (record ++ [.signal pid (some .terminate) asked]) (sys.now told + timeout)
    rcases hend : sys.awaitEnd pid (sys.now told + timeout) (sys.pause 0 told) with ⟨gone, after⟩
    rw [hend] at hwait hawaits hlast
    rw [← hgiven] at hawaits
    cases gone with
    | true =>
      refine ⟨asked, front ++ [last], none, ?_, ?_⟩
      · rw [terminate_of_gone htimed hwait, terminate_of_gone hsignal hend]
        simp [endingProbes]
      · rw [terminate_of_gone hsignal hend]
        exact .gone hasked hawaits
    | false =>
      let kill := sys.signalReply pid (some .kill) after
      refine ⟨asked, front ++ [last], some kill, ?_, ?_⟩
      · rw [terminate_of_found htimed hwait, terminate_of_found hsignal hend, signal_timed]
        simp [endingProbes, kill]
      · rw [terminate_of_found hsignal hend]
        exact Ending.killed hasked hawaits hlast

/-- However the system answers, and whatever time it takes, a process is ended in order. It is told
to end once and first, and is killed at most once and last; what comes between are the looks. -/
theorem terminate_endsInOrder (pid : Pid) (timeout : ℕ) (world : World σ) :
    ∃ asked looks killed,
      sys.timed.terminate pid timeout (world.timed []) =
        ((sys.terminate pid timeout world).1,
          (sys.terminate pid timeout world).2.timed (endingProbes pid asked looks killed)) ∧
      EndsInOrder pid timeout asked looks killed (sys.terminate pid timeout world).1 := by
  obtain ⟨asked, looks, killed, htimed, hending⟩ := sys.terminate_timed pid timeout world []
  exact ⟨asked, looks, killed, htimed, hending.endsInOrder⟩

end System
end LineShell
