import LineShell.Dispatch
import LineShell.Proofs.Effect
import LineShell.Proofs.Idle

/-!
# The history of a session

What a run of lines leaves in the session that they were entered in. Every command may come to
whatever end a system gives it, or break down, and the world may change between two lines. Still the
history is the lines that were entered, but for those that are blank and those that leave the shell;
only a cd that succeeds moves the session; and its settings are never touched.
-/
namespace LineShell

/-- What a command that broke down has left: its last words, if it had any, and the world. Commands
change a session only as their last step, so that the session is as it was. -/
structure Breakdown (σ : Type) where
  message : Option String
  world : World σ

/-- A line that is entered. -/
structure Entry (σ : Type) where
  line : String
  /-- What has become of the world since the line before. -/
  meanwhile : World σ → World σ
  /-- How the command of the line breaks down, if it does. -/
  breakdown : Option (Breakdown σ)

/-- What no line changes of a session. -/
structure Session.Keeps (before after : Session) : Prop where
  config : after.config = before.config
  palette : after.palette = before.palette
  launcher : after.launcher = before.launcher
  user : after.user = before.user
  host : after.host = before.host
  home : after.home = before.home

namespace Session.Keeps
variable {s t u : Session}

theorem refl (s : Session) : s.Keeps s :=
  ⟨rfl, rfl, rfl, rfl, rfl, rfl⟩

theorem trans (h : s.Keeps t) (h' : t.Keeps u) : s.Keeps u where
  config := h'.config.trans h.config
  palette := h'.palette.trans h.palette
  launcher := h'.launcher.trans h.launcher
  user := h'.user.trans h.user
  host := h'.host.trans h.host
  home := h'.home.trans h.home

theorem record (h : s.Keeps t) (line : String) : s.Keeps (t.record line) where
  __ := h

end Session.Keeps

namespace Plan
variable {σ : Type} (sys : System σ) (breakdown : Option (Breakdown σ)) (shell : Shell σ)

/-- Executes a plan, or lets it break down. There is nothing in the exit command that could. -/
def executeOr (plan : Plan) (shell : Shell σ) : Completion × Shell σ :=
  match breakdown.filter fun _ => !plan.leaves with
  | some b => (.brokeDown b.message, { shell with world := b.world })
  | none =>
    let (report, shell) := plan.execute sys shell
    (.finished report, shell)

theorem executeOr_none (plan : Plan) :
    plan.executeOr sys none shell =
      (.finished (plan.execute sys shell).1, (plan.execute sys shell).2) :=
  rfl

/-- A plan that has broken down leaves the session as it was. -/
theorem executeOr_cases (plan : Plan) :
    plan.executeOr sys breakdown shell = plan.executeOr sys none shell ∨
      plan.leaves = false ∧ ∃ b, breakdown = some b ∧
        plan.executeOr sys breakdown shell =
          (.brokeDown b.message, { shell with world := b.world }) := by
  cases breakdown with
  | none => exact .inl rfl
  | some b =>
    cases hleaves : plan.leaves with
    -- the exit command runs whether or not it is told to break down
    | true => exact .inl (by simp [executeOr, hleaves])
    | false => exact .inr ⟨rfl, b, rfl, by rw [executeOr, hleaves]; rfl⟩

end Plan

namespace Dispatch
variable {σ : Type} (sys : System σ)

/-- Handles a line whose command may break down. -/
def ofLineOr (breakdown : Option (Breakdown σ)) (line : String) (shell : Shell σ) :
    Dispatch × Shell σ :=
  ofLineBy (Plan.executeOr sys breakdown) line shell

theorem ofLineOr_none (line : String) (shell : Shell σ) :
    ofLineOr sys none line shell = ofLine sys line shell :=
  rfl

/-- Handles a line that is entered some time after the line before. -/
def ofEntry (entry : Entry σ) (shell : Shell σ) : Dispatch × Shell σ :=
  ofLineOr sys entry.breakdown entry.line { shell with world := entry.meanwhile shell.world }

/-- The shell after a run of lines. -/
def ofEntries : List (Entry σ) → Shell σ → Shell σ
  | [], shell => shell
  | entry :: entries, shell => ofEntries entries (ofEntry sys entry shell).2

def isExit (line : String) : Bool :=
  match Plan.parse line with
  | .ok plan => plan.leaves
  | .error _ => false

theorem isExit_iff {line : String} :
    isExit line ↔ ∃ args, Plan.parse line = .ok (.simple ⟨"exit", args⟩) := by
  rw [isExit]
  cases Plan.parse line with
  | error e => simp
  | ok plan =>
    cases plan with
    | simple cmd =>
      obtain ⟨program, args⟩ := cmd
      simp [Plan.leaves]
    | _ => simp [Plan.leaves]

/-- The lines that go into the history: those that are not blank and do not leave the shell. -/
def recorded (lines : List String) : List String :=
  (lines.map Text.trim).filter fun line => line ≠ "" && !isExit line

theorem recorded_append (lines lines' : List String) :
    recorded (lines ++ lines') = recorded lines ++ recorded lines' := by
  simp [recorded]

variable (breakdown : Option (Breakdown σ)) (line : String) (shell : Shell σ)

/-- A report that does not leave the shell is shown, and its line recorded. -/
theorem conclude_of_ne_exit {report : Report} (h : report ≠ .ok .exit) :
    (conclude line report shell).1 ≠ .idle ∧ (conclude line report shell).1 ≠ .exit ∧
      (conclude line report shell).2 = { shell with session := shell.session.record line } := by
  obtain e | text | raw | _ | _ := report <;> simp_all [conclude]

/-- The report on a line whose command may break down, before it is shown and recorded. -/
def outcomeOr (breakdown : Option (Breakdown σ)) (line : String) (shell : Shell σ) :
    Report × Shell σ :=
  match Plan.parse line with
  | .error e => (.error (.parse e), shell)
  | .ok plan =>
    let (completion, shell) := plan.executeOr sys breakdown shell
    (completion.contain, shell)

/-- A line is refused, or its command breaks down, or its plan is executed. Only in the last of these
is the session not as it was, and only there may the shell be left. -/
theorem outcomeOr_cases :
    (isExit line = false ∧ (outcomeOr sys breakdown line shell).1 ≠ .ok .exit ∧
        (outcomeOr sys breakdown line shell).2.session = shell.session) ∨
      ∃ plan, Plan.parse line = .ok plan ∧
        outcomeOr sys breakdown line shell = plan.execute sys shell := by
  rw [outcomeOr, isExit]
  cases Plan.parse line with
  | error e => simp
  | ok plan =>
    obtain h | ⟨hleaves, b, -, h⟩ := plan.executeOr_cases sys breakdown shell
    · exact .inr ⟨plan, rfl, by simp [h, Plan.executeOr_none, Completion.contain]⟩
    · simp [h, hleaves, Completion.contain]

theorem outcomeOr_of_isExit {line : String} (h : isExit line) :
    outcomeOr sys breakdown line shell = (.ok .exit, shell) := by
  obtain ⟨hnot, -⟩ | ⟨plan, hplan, heq⟩ := outcomeOr_cases sys breakdown line shell
  · simp [h] at hnot
  · rw [isExit, hplan] at h
    rw [heq, Plan.execute_of_leaves sys shell h]

theorem outcomeOr_eq_exit_iff :
    (outcomeOr sys breakdown line shell).1 = .ok .exit ↔ isExit line := by
  constructor
  · intro h
    obtain ⟨-, hne, -⟩ | ⟨plan, hplan, heq⟩ := outcomeOr_cases sys breakdown line shell
    · exact absurd h hne
    · rw [heq, Plan.execute_eq_exit_iff] at h
      rwa [isExit, hplan]
  · intro h
    rw [outcomeOr_of_isExit sys breakdown shell h]

/-- What running a line does to the session, other than recording it. -/
theorem session_outcomeOr :
    shell.session.Keeps (outcomeOr sys breakdown line shell).2.session ∧
      (outcomeOr sys breakdown line shell).2.session.history = shell.session.history := by
  obtain ⟨-, -, h⟩ | ⟨plan, -, h⟩ := outcomeOr_cases sys breakdown line shell
  · rw [h]
    exact ⟨.refl _, rfl⟩
  · rw [h, Plan.session_execute]
    exact ⟨⟨rfl, rfl, rfl, rfl, rfl, rfl⟩, rfl⟩

/-- Only a cd that succeeds changes the working directory. -/
theorem workingDir_outcomeOr
    (h : (outcomeOr sys breakdown line shell).2.session.workingDir ≠ shell.session.workingDir) :
    ∃ args dir, Plan.parse line = .ok (.simple ⟨"cd", args⟩) ∧
      Builtin.runCd shell.session.workingDir args shell.world.files = .ok dir ∧
      outcomeOr sys breakdown line shell =
        (.ok .silent, { shell with session := { shell.session with workingDir := dir } }) := by
  obtain ⟨-, -, heq⟩ | ⟨plan, hplan, heq⟩ := outcomeOr_cases sys breakdown line shell
  · rw [heq] at h
    exact absurd rfl h
  · -- a plan that is executed moves the shell to its destination, if it has one
    cases hdest : plan.destination? shell with
    | none =>
      rw [heq, Plan.session_execute, hdest] at h
      exact absurd rfl h
    | some dir =>
      obtain ⟨args, rfl, hdir⟩ := (Plan.destination?_eq_some_iff shell).1 hdest
      refine ⟨args, dir, hplan, hdir, ?_⟩
      rw [heq]
      exact SimpleCommand.run_of_destination? sys shell hdest

theorem ofLineOr_of_blank {line : String} (h : Text.trim line = "") :
    ofLineOr sys breakdown line shell = (.idle, shell) := by
  simp only [ofLineOr, ofLineBy, if_pos h]

/-- Handling a line that is not blank is showing and recording its report. -/
theorem ofLineOr_eq {line : String} (h : Text.trim line ≠ "") :
    ofLineOr sys breakdown line shell =
      conclude (Text.trim line) (outcomeOr sys breakdown (Text.trim line) shell).1
        (outcomeOr sys breakdown (Text.trim line) shell).2 := by
  simp only [ofLineOr, ofLineBy, if_neg h, outcomeOr]
  cases Plan.parse (Text.trim line) <;> rfl

/-- The ways in which a line is handled: it is blank, or it leaves the shell, or it is recorded. -/
theorem ofLineOr_cases :
    (Text.trim line = "" ∧ ofLineOr sys breakdown line shell = (.idle, shell)) ∨
      (Text.trim line ≠ "" ∧ isExit (Text.trim line) ∧
        ofLineOr sys breakdown line shell = (.exit, shell)) ∨
      (Text.trim line ≠ "" ∧ isExit (Text.trim line) = false ∧
        (ofLineOr sys breakdown line shell).1 ≠ .idle ∧
        (ofLineOr sys breakdown line shell).1 ≠ .exit ∧
        (ofLineOr sys breakdown line shell).2.session =
          (outcomeOr sys breakdown (Text.trim line) shell).2.session.record (Text.trim line)) := by
  by_cases hblank : Text.trim line = ""
  · exact .inl ⟨hblank, ofLineOr_of_blank sys breakdown shell hblank⟩
  · right
    rw [ofLineOr_eq sys breakdown shell hblank]
    by_cases hexit : isExit (Text.trim line)
    · refine .inl ⟨hblank, hexit, ?_⟩
      rw [outcomeOr_of_isExit sys breakdown shell hexit]
      rfl
    · have hne := mt (outcomeOr_eq_exit_iff sys breakdown (Text.trim line) shell).1 hexit
      obtain ⟨hidle, hleft, hshell⟩ := conclude_of_ne_exit (Text.trim line)
        (outcomeOr sys breakdown (Text.trim line) shell).2 hne
      exact .inr ⟨hblank, by simpa using hexit, hidle, hleft, by rw [hshell]⟩

/-- What a line adds to the history. -/
theorem history_ofLineOr :
    (ofLineOr sys breakdown line shell).2.session.history =
      shell.session.history ++ recorded [line] := by
  obtain ⟨hblank, h⟩ | ⟨-, hexit, h⟩ | ⟨hblank, hexit, -, -, h⟩ :=
    ofLineOr_cases sys breakdown line shell
  · simp [h, recorded, hblank]
  · simp [h, recorded, hexit]
  · have hkept := (session_outcomeOr sys breakdown (Text.trim line) shell).2
    simp [h, Session.record, hkept, recorded, hblank, hexit]

theorem keeps_ofLineOr :
    shell.session.Keeps (ofLineOr sys breakdown line shell).2.session := by
  obtain ⟨-, h⟩ | ⟨-, -, h⟩ | ⟨-, -, -, -, h⟩ := ofLineOr_cases sys breakdown line shell
  · rw [h]
    exact .refl _
  · rw [h]
    exact .refl _
  · rw [h]
    exact (session_outcomeOr sys breakdown (Text.trim line) shell).1.record _

theorem ofLineOr_eq_idle_iff :
    (ofLineOr sys breakdown line shell).1 = .idle ↔ Text.trim line = "" := by
  obtain ⟨hblank, h⟩ | ⟨hblank, -, h⟩ | ⟨hblank, -, hidle, -⟩ :=
    ofLineOr_cases sys breakdown line shell
  · simp [h, hblank]
  · simp [h, hblank]
  · simp [hidle, hblank]

theorem ofLineOr_eq_exit_iff :
    (ofLineOr sys breakdown line shell).1 = .exit ↔ isExit (Text.trim line) := by
  obtain ⟨hblank, h⟩ | ⟨-, hexit, h⟩ | ⟨-, hexit, -, hleft, -⟩ :=
    ofLineOr_cases sys breakdown line shell
  · have hempty : isExit "" = false := by decide +kernel
    simp [h, hblank, hempty]
  · simp [h, hexit]
  · simp [hleft, hexit]

/-- The working directory changes only when a cd has succeeded. -/
theorem workingDir_ofLineOr
    (h : (ofLineOr sys breakdown line shell).2.session.workingDir ≠ shell.session.workingDir) :
    ∃ args dir, Plan.parse (Text.trim line) = .ok (.simple ⟨"cd", args⟩) ∧
      Builtin.runCd shell.session.workingDir args shell.world.files = .ok dir ∧
      (ofLineOr sys breakdown line shell).1 = .report "" ∧
      (ofLineOr sys breakdown line shell).2.session.workingDir = dir := by
  obtain ⟨-, heq⟩ | ⟨-, -, heq⟩ | ⟨hblank, -, -, -, heq⟩ :=
    ofLineOr_cases sys breakdown line shell
  · exact absurd (by rw [heq]) h
  · exact absurd (by rw [heq]) h
  · rw [heq] at h
    obtain ⟨args, dir, hparse, hdir, hout⟩ :=
      workingDir_outcomeOr sys breakdown (Text.trim line) shell h
    refine ⟨args, dir, hparse, hdir, ?_, by rw [heq, hout]; rfl⟩
    rw [ofLineOr_eq sys breakdown shell hblank, hout]
    rfl

/-- The history command shows the history as it was before the line that asks for it. -/
theorem ofLine_history {args : List String}
    (h : Plan.parse (Text.trim line) = .ok (.simple ⟨"history", args⟩)) :
    (ofLine sys line shell).1 = .report ("\n".intercalate shell.session.history) := by
  have hblank : Text.trim line ≠ "" := by
    intro hblank
    have hempty : Plan.parse "" = .ok .noOp := by decide +kernel
    simp [hblank, hempty] at h
  have hname : Builtin.ofName? "history" = some .history := Builtin.ofName?_name .history
  simp only [ofLine, ofLineBy, if_neg hblank, h, Plan.execute, SimpleCommand.run, hname]
  rfl

/-- A run of lines adds to the history the lines that are neither blank nor leave the shell. -/
theorem history_ofEntries (entries : List (Entry σ)) (shell : Shell σ) :
    (ofEntries sys entries shell).session.history =
      shell.session.history ++ recorded (entries.map (·.line)) := by
  induction entries generalizing shell with
  | nil => simp [ofEntries, recorded]
  | cons entry entries ih =>
    rw [ofEntries, ih, ofEntry, history_ofLineOr, List.append_assoc, ← recorded_append]
    rfl

/-- A run of lines keeps the settings of the session. -/
theorem keeps_ofEntries (entries : List (Entry σ)) (shell : Shell σ) :
    shell.session.Keeps (ofEntries sys entries shell).session := by
  induction entries generalizing shell with
  | nil => exact .refl _
  | cons entry entries ih =>
    have hstep := keeps_ofLineOr sys entry.breakdown entry.line
      { shell with world := entry.meanwhile shell.world }
    exact hstep.trans (ih _)

/-- What holds of a session however its commands end. In a run, the history grows by the lines that
are neither blank nor leave the shell, as they are when trimmed, and the settings stay. At each line,
a blank one does nothing; only the exit command leaves the shell; only a cd that succeeds moves it;
and the history command shows the history without its own line. -/
theorem session_invariant :
    (∀ (entries : List (Entry σ)) (shell : Shell σ),
      (ofEntries sys entries shell).session.history =
          shell.session.history ++ recorded (entries.map (·.line)) ∧
        shell.session.Keeps (ofEntries sys entries shell).session) ∧
      ∀ (breakdown : Option (Breakdown σ)) (line : String) (shell : Shell σ),
        let after := ofLineOr sys breakdown line shell
        (after.1 = .idle ↔ Text.trim line = "") ∧
          (Text.trim line = "" → after.2 = shell) ∧
          (after.1 = .exit ↔
            ∃ args, Plan.parse (Text.trim line) = .ok (.simple ⟨"exit", args⟩)) ∧
          (after.2.session.workingDir ≠ shell.session.workingDir →
            ∃ args dir, Plan.parse (Text.trim line) = .ok (.simple ⟨"cd", args⟩) ∧
              Builtin.runCd shell.session.workingDir args shell.world.files = .ok dir ∧
              after.1 = .report "" ∧ after.2.session.workingDir = dir) ∧
          ∀ args, Plan.parse (Text.trim line) = .ok (.simple ⟨"history", args⟩) →
            breakdown = none → after.1 = .report ("\n".intercalate shell.session.history) := by
  refine ⟨fun entries shell => ⟨history_ofEntries sys entries shell,
    keeps_ofEntries sys entries shell⟩, fun breakdown line shell => ⟨?_, ?_, ?_, ?_, ?_⟩⟩
  · exact ofLineOr_eq_idle_iff sys breakdown line shell
  · intro hblank
    rw [ofLineOr_of_blank sys breakdown shell hblank]
  · rw [ofLineOr_eq_exit_iff, isExit_iff]
  · exact workingDir_ofLineOr sys breakdown line shell
  · rintro args hparse rfl
    have h := ofLine_history sys line shell hparse
    rwa [← ofLineOr_none] at h

/-- A run with a blank line, a command that breaks down, an exit, and an exit in a pipeline. -/
theorem session_invariant_after_breakdown :
    let shell := Shell.startIn ⟨[]⟩
    let entries : List (Entry ℕ) :=
      [⟨" pwd ", id, none⟩, ⟨"\t", id, none⟩, ⟨"ls", id, some ⟨some "lost", shell.world⟩⟩,
        ⟨"exit", id, none⟩, ⟨"exit | wc", id, none⟩]
    let after := ofEntries System.idle entries shell
    after.session.history = ["pwd", "ls", "exit | wc"] ∧ shell.session.Keeps after.session ∧
      (ofLineOr System.idle none "\t" after).2 = after ∧
      (ofLineOr System.idle none "exit now" after).1 = .exit ∧
      (ofLineOr System.idle none "history" after).1 = .report "pwd\nls\nexit | wc" := by
  intro shell entries after
  obtain ⟨hrun, hstep⟩ := session_invariant System.idle
  obtain ⟨hhistory, hkeeps⟩ := hrun entries shell
  have hlines : after.session.history = ["pwd", "ls", "exit | wc"] := by
    rw [hhistory]
    decide +kernel
  obtain ⟨-, hblank, -⟩ := hstep none "\t" after
  obtain ⟨-, -, hexit, -⟩ := hstep none "exit now" after
  obtain ⟨-, -, -, -, hshown⟩ := hstep none "history" after
  refine ⟨hlines, hkeeps, hblank (by decide),
    hexit.2 ⟨["now"], by decide +kernel⟩, ?_⟩
  rw [hshown [] (by decide +kernel) rfl, hlines]
  decide

end Dispatch
end LineShell
