import LineShell.Proofs.Reading

/-!
# The history that requests carry

With every request the loop hands the reader the history entries that it has not handed over yet. A
history is only ever added to, so that what the requests carry is, put together, the history as it
was when the last of them was made: no entry is left out, handed over twice, or out of order.
-/
namespace LineShell.Repl
variable {σ : Type}

/-- Dispatching a line does nothing to the history but add to it. -/
def Appends (dispatch : String → Shell σ → Dispatch × Shell σ) : Prop :=
  ∀ line shell, shell.session.history <+: (dispatch line shell).2.session.history

/-- The history entries that the reader has been handed. -/
def handed (repl : Repl σ) : List String :=
  repl.shell.session.history.take repl.recalled

/-- A request carries just what the reader has not been handed. -/
theorem handed_append_request (repl : Repl σ) :
    repl.handed ++ repl.request.history = repl.shell.session.history :=
  List.take_append_drop _ _

theorem handed_eq_of_prefix {repl : Repl σ} {earlier : List String}
    (hrecalled : repl.recalled = earlier.length)
    (hgrown : earlier <+: repl.shell.session.history) : repl.handed = earlier := by
  rw [handed, hrecalled]
  exact (List.prefix_iff_eq_take.1 hgrown).symm

variable {dispatch : String → Shell σ → Dispatch × Shell σ}

theorem request_turn (repl : Repl σ) : (repl.turn dispatch).1.request = repl.request :=
  rfl

/-- After a turn the reader has been handed all of the history that there was before it. -/
theorem handed_turn (hdispatch : Appends dispatch) (repl : Repl σ) :
    (repl.turn dispatch).2.1.handed = repl.shell.session.history := by
  rcases hanswer : repl.reader.answer (repl.shell.world.print repl.shell.session.header) with
    ⟨message, reader, world⟩
  simp only [turn, Repl.print, hanswer]
  cases message with
  | endOfInput => exact handed_eq_of_prefix rfl (List.prefix_refl _)
  | failed cause => exact handed_eq_of_prefix rfl (List.prefix_refl _)
  | line text =>
    simp only [present_eq]
    exact handed_eq_of_prefix rfl (hdispatch text { repl.shell with world })

/-- The turns of a run: its first one, and those of the run that goes on from there. -/
theorem turns_cases (limit : ℕ) (repl : Repl σ) :
    ∃ later, (turns dispatch (limit + 1) repl).1 = (repl.turn dispatch).1 :: later ∧
      ∀ k < later.length,
        later = (turns dispatch limit (repl.turn dispatch).2.1).1 ∧
          (turns dispatch (k + 1) repl).2 = (turns dispatch k (repl.turn dispatch).2.1).2 := by
  rcases hturn : repl.turn dispatch with ⟨turn, after, goesOn⟩
  cases goesOn with
  | false => exact ⟨[], by rw [turns_of_stop hturn], by simp⟩
  | true =>
    exact ⟨_, by rw [turns_of_go hturn], fun k _ => ⟨rfl, by rw [turns_of_go hturn]⟩⟩

/-- The requests of a run are those that the loop makes as the turns before have left it. -/
theorem request_of_turns {limit k : ℕ} {repl : Repl σ}
    (hk : k < (turns dispatch limit repl).1.length) :
    (turns dispatch limit repl).1[k]?.map (·.request) = some (turns dispatch k repl).2.request := by
  induction limit generalizing repl k with
  | zero => simp [turns] at hk
  | succ limit ih =>
    obtain ⟨later, hturns, hlater⟩ := @turns_cases _ dispatch limit repl
    rw [hturns] at hk ⊢
    cases k with
    | zero => rfl
    | succ k =>
      obtain ⟨rfl, hafter⟩ := hlater k (by simpa using hk)
      rw [List.getElem?_cons_succ, hafter]
      exact ih (by simpa using hk)

/-- What was handed over before a run and what its requests carry is, put together, the history as
the last of the requests found it. -/
theorem handed_append_requests (hdispatch : Appends dispatch) {limit k : ℕ} {repl : Repl σ}
    (hk : k < (turns dispatch limit repl).1.length) :
    repl.handed ++ ((turns dispatch limit repl).1.take (k + 1)).flatMap (·.request.history) =
      (turns dispatch k repl).2.shell.session.history := by
  induction limit generalizing repl k with
  | zero => simp [turns] at hk
  | succ limit ih =>
    obtain ⟨later, hturns, hlater⟩ := @turns_cases _ dispatch limit repl
    rw [hturns] at hk ⊢
    rw [List.take_succ_cons, List.flatMap_cons, request_turn, ← List.append_assoc,
      handed_append_request]
    cases k with
    | zero => simp [turns]
    | succ k =>
      obtain ⟨rfl, hafter⟩ := hlater k (by simpa using hk)
      rw [hafter, ← handed_turn hdispatch repl]
      exact ih (by simpa using hk)

/-- Dispatches lines on a system, where the world may change before a line and its command may break
down. -/
def dispatchOn (sys : System σ) (meanwhile : String → Shell σ → World σ → World σ)
    (breakdown : String → Shell σ → Option (Breakdown σ)) (line : String) (shell : Shell σ) :
    Dispatch × Shell σ :=
  Dispatch.ofEntry sys ⟨line, meanwhile line shell, breakdown line shell⟩ shell

theorem appends_dispatchOn (sys : System σ) (meanwhile : String → Shell σ → World σ → World σ)
    (breakdown : String → Shell σ → Option (Breakdown σ)) :
    Appends (dispatchOn sys meanwhile breakdown) := by
  intro line shell
  rw [dispatchOn, Dispatch.ofEntry, Dispatch.history_ofLineOr]
  exact List.prefix_append _ _

/-- In every run of the loop, whatever becomes of the lines and of the input, what the requests up
to any one of them carry is the history as that request finds it, and the request names the working
directory of that moment. -/
theorem requests_carry_history (sys : System σ)
    (meanwhile : String → Shell σ → World σ → World σ)
    (breakdown : String → Shell σ → Option (Breakdown σ)) (shell : Shell σ) (limit k : ℕ)
    (hk : k < (turns (dispatchOn sys meanwhile breakdown) limit (.fresh shell)).1.length) :
    let done := (turns (dispatchOn sys meanwhile breakdown) limit (.fresh shell)).1
    let before := (turns (dispatchOn sys meanwhile breakdown) k (.fresh shell)).2
    (done.take (k + 1)).flatMap (·.request.history) = before.shell.session.history ∧
      done[k]?.map (·.request.workingDir) = some before.shell.session.workingDir := by
  intro done before
  have hhistory := handed_append_requests (appends_dispatchOn sys meanwhile breakdown) hk
  have hrequest := congrArg (Option.map Input.Request.workingDir) (request_of_turns hk)
  rw [Option.map_map] at hrequest
  exact ⟨hhistory, hrequest⟩

/-- A run with a command that breaks down, a blank line, a line that is no plan, control sequences,
and a read that fails. -/
theorem requests_carry_history_to_a_failed_read :
    let shell := (Shell.startIn ⟨[]⟩).withInput
      (.ok "pwd\nls\n \n|\nclear\nexit".toUTF8.toList)
    let meanwhile : String → Shell ℕ → World ℕ → World ℕ := fun line _ world =>
      if line = "clear" then { world with input := .error (.os .isDirectory) } else world
    let breakdown : String → Shell ℕ → Option (Breakdown ℕ) := fun line shell =>
      if line = "ls" then some ⟨some "lost", shell.world⟩ else none
    let done := (turns (dispatchOn System.idle meanwhile breakdown) 9 (.fresh shell)).1
    done.map (·.message) = [.line "pwd", .line "ls", .line " ", .line "|", .line "clear",
        .failed (.os .isDirectory), .endOfInput] ∧
      (done.take 6).flatMap (·.request.history) = ["pwd", "ls", "|", "clear"] ∧
      done[5]?.map (·.request.workingDir) = some ("/" : Path) := by
  intro shell meanwhile breakdown done
  have hmessages : done.map (·.message) = [.line "pwd", .line "ls", .line " ", .line "|",
      .line "clear", .failed (.os .isDirectory), .endOfInput] := by decide +kernel
  have hlength : 5 < done.length := by
    have h := congrArg List.length hmessages
    rw [List.length_map] at h
    simp [h]
  obtain ⟨hhistory, hdir⟩ :=
    requests_carry_history System.idle meanwhile breakdown shell 9 5 hlength
  refine ⟨hmessages, hhistory.trans ?_, hdir.trans ?_⟩
  · decide +kernel
  · decide +kernel

end LineShell.Repl
