import LineShell.Execute
import Mathlib.Tactic.Common

/-!
# What a command does to its session

A command can do two things to the session that it runs in: a built-in command that succeeds may
move it to another directory, and a command that starts in the background is added to its jobs. Of
all commands only exit leaves the shell.
-/
namespace LineShell

namespace Builtin

/-- A command is the one that its word runs. -/
theorem name_of_ofName? {word : String} {b : Builtin} (h : ofName? word = some b) :
    b.name = word := by
  simpa using List.find?_some h

theorem ofName?_eq_some_iff {word : String} {b : Builtin} : ofName? word = some b ↔ b.name = word :=
  ⟨name_of_ofName?, by rintro rfl; exact ofName?_name b⟩

/-- The directory that a command moves the shell to. -/
def destination? (b : Builtin) (args : List String) (shell : Shell σ) : Option Path :=
  match b with
  | .cd => (runCd shell.session.workingDir args shell.world.files).toOption
  | _ => none

section Reports
variable {σ : Type} {b : Builtin} {cwd : Path} {args : List String} {fs : FileSystem}

@[simp] theorem reportChange_ne_exit (text : String) (change : FileSystem.Change Unit) :
    (reportChange text change).1 ≠ .ok .exit := by
  obtain ⟨e | _, fs⟩ := change <;> simp [reportChange]

/-- What runs on a path leaves the shell only if it does so on some path. -/
theorem withPath_ne_exit {run : String → Path → FileReport}
    (h : ∀ name path, (run name path).1 ≠ .ok .exit) :
    (withPath b cwd args fs run).1 ≠ .ok .exit := by
  rw [withPath]
  split
  · simp
  · exact h _ _

theorem withDestination_ne_exit {run : Path → Path → FileReport}
    (h : ∀ source target, (run source target).1 ≠ .ok .exit) :
    (withDestination b cwd args fs run).1 ≠ .ok .exit := by
  refine withPath_ne_exit fun name source => ?_
  split_ifs
  · simp
  · split
    · simp
    · exact h _ _

@[simp] theorem runCat_ne_exit : (runCat cwd args fs).1 ≠ .ok .exit :=
  withPath_ne_exit fun name path => by split <;> simp

@[simp] theorem runMkdir_ne_exit : (runMkdir cwd args fs).1 ≠ .ok .exit :=
  withPath_ne_exit fun name path => by split_ifs <;> simp

@[simp] theorem runTouch_ne_exit : (runTouch cwd args fs).1 ≠ .ok .exit :=
  withPath_ne_exit fun name path => by split_ifs <;> simp

@[simp] theorem runRm_ne_exit : (runRm cwd args fs).1 ≠ .ok .exit :=
  withPath_ne_exit fun name path => by split_ifs <;> simp

@[simp] theorem runRmdir_ne_exit : (runRmdir cwd args fs).1 ≠ .ok .exit :=
  withPath_ne_exit fun name path => by split_ifs <;> simp

@[simp] theorem runCp_ne_exit : (runCp cwd args fs).1 ≠ .ok .exit :=
  withDestination_ne_exit fun source target => by split_ifs <;> simp

@[simp] theorem runMv_ne_exit : (runMv cwd args fs).1 ≠ .ok .exit := by
  refine withDestination_ne_exit fun source target => ?_
  split_ifs
  · simp
  · split <;> simp

@[simp] theorem runLs_ne_exit (palette : Palette) : runLs palette cwd args fs ≠ .ok .exit := by
  rw [runLs]
  split <;> simp

@[simp] theorem runTree_ne_exit (palette : Palette) : runTree palette cwd args fs ≠ .ok .exit := by
  rw [runTree]
  split_ifs <;> simp

@[simp] theorem runEcho_ne_exit (usage : String) : runEcho usage args ≠ .ok .exit := by
  rw [runEcho]
  split_ifs
  · simp
  · split <;> simp

@[simp] theorem report_ne_exit (usage : Usage) (which : Option String) (help : String) :
    usage.report which help ≠ .ok .exit := by
  rw [Usage.report]
  split <;> simp

@[simp] theorem reportFigure_ne_exit (measure : Except ShellError Usage) :
    reportFigure b args measure ≠ .ok .exit := by
  unfold reportFigure
  split_ifs
  · simp
  · split <;> simp

variable (sys : System σ) (world : World σ)

@[simp] theorem runKill_ne_exit (palette : Palette) (timeout : ℕ) :
    (runKill sys palette timeout args world).1 ≠ .ok .exit := by
  rw [runKill]
  repeat' split
  all_goals simp

@[simp] theorem runNano_ne_exit : (runNano sys cwd args world).1 ≠ .ok .exit := by
  unfold runNano
  dsimp only
  repeat' split
  all_goals simp

@[simp] theorem runOpen_ne_exit : (runOpen sys cwd args world).1 ≠ .ok .exit := by
  unfold runOpen
  dsimp only
  repeat' split
  all_goals simp

@[simp] theorem runTop_ne_exit : (runTop sys world).1 ≠ .ok .exit := by
  rw [runTop]
  split <;> simp

@[simp] theorem runPs_ne_exit : (runPs sys cwd args world).1 ≠ .ok .exit := by
  rw [runPs]
  repeat' split
  all_goals simp

end Reports

variable {σ : Type} (sys : System σ) (args : List String) (shell : Shell σ)

theorem run_eq_exit_iff {b : Builtin} : (b.run sys args shell).1 = .ok .exit ↔ b = .exit := by
  cases b with
  | cd =>
    simp only [run]
    split <;> simp
  | _ => simp [run, Shell.withFiles, Shell.withWorld]

/-- A built-in command keeps the session but for the directory that it may move it to. -/
theorem session_run (b : Builtin) :
    (b.run sys args shell).2.session =
      { shell.session with
        workingDir := (destination? b args shell).getD shell.session.workingDir } := by
  cases b with
  | cd =>
    simp only [run, destination?]
    split <;> simp [Except.toOption, *]
  | _ => simp [run, destination?, Shell.withFiles, Shell.withWorld]

end Builtin

variable {σ : Type} (sys : System σ) (shell : Shell σ)

theorem Launcher.outcome_ne_exit (stdout : String) : outcome stdout ≠ .exit := by
  rw [outcome]
  split_ifs <;> simp

namespace SimpleCommand

/-- The directory that a command in the foreground moves the shell to. -/
def destination? (cmd : SimpleCommand) (shell : Shell σ) : Option Path :=
  (Builtin.ofName? cmd.program).bind (·.destination? cmd.args shell)

theorem run_eq_exit_iff {cmd : SimpleCommand} :
    (cmd.run sys shell).1 = .ok .exit ↔ cmd.program = "exit" := by
  have hexit : Builtin.ofName? cmd.program = some .exit ↔ "exit" = cmd.program :=
    Builtin.ofName?_eq_some_iff
  rw [eq_comm (b := "exit"), ← hexit, run]
  cases hname : Builtin.ofName? cmd.program with
  | some b => simp [Builtin.run_eq_exit_iff]
  | none =>
    dsimp only
    split <;> simp [Launcher.outcome_ne_exit]

theorem session_run (cmd : SimpleCommand) :
    (cmd.run sys shell).2.session =
      { shell.session with
        workingDir := (cmd.destination? shell).getD shell.session.workingDir } := by
  rw [run, destination?]
  cases hname : Builtin.ofName? cmd.program with
  | some b => exact b.session_run sys cmd.args shell
  | none =>
    dsimp only
    split <;> rfl

theorem destination?_eq_some_iff {cmd : SimpleCommand} {dir : Path} :
    cmd.destination? shell = some dir ↔ cmd.program = "cd" ∧
      Builtin.runCd shell.session.workingDir cmd.args shell.world.files = .ok dir := by
  have hcd : Builtin.ofName? cmd.program = some .cd ↔ "cd" = cmd.program :=
    Builtin.ofName?_eq_some_iff
  rw [eq_comm (b := "cd"), ← hcd, destination?]
  cases hname : Builtin.ofName? cmd.program with
  | none => simp
  | some b =>
    cases b with
    | cd =>
      simp only [Builtin.destination?, Option.bind_some, Except.toOption]
      split <;> simp [*]
    | _ => simp [Builtin.destination?]

/-- A command that moves the shell to a directory does nothing else. -/
theorem run_of_destination? {cmd : SimpleCommand} {dir : Path}
    (h : cmd.destination? shell = some dir) :
    cmd.run sys shell =
      (.ok .silent, { shell with session := { shell.session with workingDir := dir } }) := by
  obtain ⟨hprogram, hdir⟩ := (destination?_eq_some_iff shell).1 h
  have hname : Builtin.ofName? cmd.program = some .cd :=
    Builtin.ofName?_eq_some_iff.2 hprogram.symm
  simp only [run, hname, Builtin.run, hdir]

end SimpleCommand

namespace Plan

/-- Whether a plan is the exit command. -/
def leaves : Plan → Bool
  | .simple cmd => cmd.program == "exit"
  | _ => false

/-- The directory that a plan moves the shell to. -/
def destination? (plan : Plan) (shell : Shell σ) : Option Path :=
  match plan with
  | .simple cmd => cmd.destination? shell
  | _ => none

def newJob? (sys : System σ) (plan : Plan) (shell : Shell σ) : Option Job :=
  match plan with
  | .backgrounded cmd => (Job.launch sys shell.session.workingDir cmd shell.world).1.toOption
  | _ => none

/-- The exit command does nothing but leave the shell. -/
theorem execute_of_leaves {plan : Plan} (h : plan.leaves) :
    plan.execute sys shell = (.ok .exit, shell) := by
  cases plan with
  | simple cmd =>
    have hname : Builtin.ofName? cmd.program = some .exit :=
      Builtin.ofName?_eq_some_iff.2 (beq_iff_eq.1 h).symm
    simp only [execute, SimpleCommand.run, hname]
    rfl
  | _ => cases h

theorem destination?_eq_some_iff {plan : Plan} {dir : Path} :
    plan.destination? shell = some dir ↔ ∃ args, plan = .simple ⟨"cd", args⟩ ∧
      Builtin.runCd shell.session.workingDir args shell.world.files = .ok dir := by
  cases plan with
  | simple cmd =>
    obtain ⟨program, args⟩ := cmd
    simp only [destination?, SimpleCommand.destination?_eq_some_iff]
    constructor
    · rintro ⟨rfl, hdir⟩
      exact ⟨args, rfl, hdir⟩
    · rintro ⟨_, heq, hdir⟩
      cases heq
      exact ⟨rfl, hdir⟩
  | _ => simp [destination?]

/-- Only the exit command leaves the shell. -/
theorem execute_eq_exit_iff {plan : Plan} :
    (plan.execute sys shell).1 = .ok .exit ↔ plan.leaves := by
  cases plan with
  | noOp => simp [execute, leaves]
  | simple cmd => simp [execute, leaves, SimpleCommand.run_eq_exit_iff]
  | piped stages =>
    simp only [execute, leaves]
    cases (Pipeline.run sys shell.session.workingDir stages shell.world).1 <;> simp [Except.map]
  | redirected redirection =>
    simp only [execute, leaves]
    obtain e | _ | text := (redirection.apply shell.session.workingDir shell.world.files).1 <;>
      simp [Except.map]
  | backgrounded cmd =>
    simp only [execute, leaves]
    split <;> simp

/-- A plan keeps the session but for the directory that it may move it to and the job that it may
start. -/
theorem session_execute (plan : Plan) :
    (plan.execute sys shell).2.session =
      { shell.session with
        workingDir := (plan.destination? shell).getD shell.session.workingDir
        jobs := shell.session.jobs ++ (plan.newJob? sys shell).toList } := by
  cases plan with
  | simple cmd => simp [execute, destination?, newJob?, SimpleCommand.session_run]
  | backgrounded cmd =>
    simp only [execute, destination?, newJob?]
    split <;> simp [Except.toOption, *]
  | _ => simp [execute, destination?, newJob?]

end Plan
end LineShell
