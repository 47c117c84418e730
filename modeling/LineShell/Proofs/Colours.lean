import LineShell.Proofs.History
import LineShell.Proofs.Painting

/-!
# Sessions with and without colours

Two sessions that differ in their colour mode only, in the same world, do the same at every line,
whatever the system does and however commands end: the same kind of answer, the same history, jobs,
working directory and world. Each text of the coloured one is the text of the plain one, painted.
-/
namespace LineShell
open Palette

def Session.inMode (session : Session) (mode : ColorMode) : Session :=
  { session with config := { session.config with color := mode }, palette := .ofMode false mode }

def Shell.inMode (shell : Shell σ) (mode : ColorMode) : Shell σ :=
  { shell with session := shell.session.inMode mode }

namespace Session

theorem paints_header (session : Session) :
    Paints (session.inMode .always).header (session.inMode .never).header := by
  exact .append (.append (.append (.append (.append (.append (.same _) (.paint _ _)) (.same _))
    (.paint _ _)) (.same _)) (.paint _ _)) (.same _)

theorem paints_farewell (session : Session) :
    Paints (session.inMode .always).farewell (session.inMode .never).farewell :=
  .paint _ _

end Session

inductive Report.Paints : Report → Report → Prop where
  | same (report : Report) : Report.Paints report report
  | text {a b : String} : Palette.Paints a b → Report.Paints (.ok (.text a)) (.ok (.text b))

/-- What comes of a line, and what it is when texts are painted. -/
inductive Dispatch.Paints : Dispatch → Dispatch → Prop where
  | same (result : Dispatch) : Dispatch.Paints result result
  | report {a b : String} : Palette.Paints a b → Dispatch.Paints (.report a) (.report b)

variable {σ : Type}

/-- What two runs from shells that differ in their colour mode give: answers that are related, and
again such shells. -/
structure DifferInMode {α : Type} (related : α → α → Prop) (a b : α × Shell σ) : Prop where
  answers : related a.1 b.1
  shells : ∃ shell : Shell σ, a.2 = shell.inMode .always ∧ b.2 = shell.inMode .never

namespace Builtin

theorem paints_runLs (cwd : Path) (args : List String) (fs : FileSystem) :
    Report.Paints (runLs coloured cwd args fs) (runLs plain cwd args fs) := by
  rw [runLs, runLs]
  split
  · exact .same _
  · refine .text (.intercalate _ (Paints.map (fun entry => ?_) _))
    obtain ⟨name, isDir⟩ := entry
    cases isDir with
    | true => exact .paint .purple name
    | false => exact .same name

theorem paints_runTree (cwd : Path) (args : List String) (fs : FileSystem) :
    Report.Paints (runTree coloured cwd args fs) (runTree plain cwd args fs) := by
  rw [runTree, runTree]
  split
  · exact .text (.intercalate _ (paints_treeLevels ..))
  · exact .same _

theorem paints_runKill (sys : System σ) (timeout : ℕ) (args : List String) (world : World σ) :
    Report.Paints (runKill sys coloured timeout args world).1
        (runKill sys plain timeout args world).1 ∧
      (runKill sys coloured timeout args world).2 = (runKill sys plain timeout args world).2 := by
  rw [runKill, runKill]
  cases required .kill args with
  | error e => exact ⟨.same _, rfl⟩
  | ok name =>
    dsimp only
    obtain ⟨e | _ | process, found⟩ := sys.findByName name world
    · exact ⟨.same _, rfl⟩
    · exact ⟨.same _, rfl⟩
    · dsimp only
      obtain ⟨e | how, ended⟩ := sys.terminate process.pid timeout found
      · exact ⟨.same _, rfl⟩
      · exact ⟨.text (paints_killText ..), rfl⟩

/-- A built-in command does the same in both modes. -/
theorem differInMode_run (sys : System σ) (b : Builtin) (args : List String) (shell : Shell σ) :
    DifferInMode Report.Paints (b.run sys args (shell.inMode .always))
      (b.run sys args (shell.inMode .never)) := by
  cases hb : b with
  | cd =>
    have hrun (mode : ColorMode) : Builtin.cd.run sys args (shell.inMode mode) =
        ((Builtin.cd.run sys args shell).1, (Builtin.cd.run sys args shell).2.inMode mode) := by
      simp only [run, Shell.inMode, Session.inMode]
      split <;> rfl
    rw [hrun, hrun]
    exact ⟨.same _, _, rfl, rfl⟩
  | help => exact ⟨.text paints_helpText, shell, rfl, rfl⟩
  | kill =>
    obtain ⟨hreport, hworld⟩ :=
      paints_runKill sys shell.session.config.killTimeout args shell.world
    refine ⟨hreport, { shell with world := (runKill sys plain _ args shell.world).2 }, ?_, rfl⟩
    exact congrArg (Shell.mk (shell.session.inMode .always)) hworld
  | ls => exact ⟨paints_runLs .., shell, rfl, rfl⟩
  | tree => exact ⟨paints_runTree .., shell, rfl, rfl⟩
  | _ => refine ⟨.same _, (b.run sys args shell).2, ?_, ?_⟩ <;> rw [hb] <;> rfl

end Builtin

theorem SimpleCommand.differInMode_run (sys : System σ) (cmd : SimpleCommand) (shell : Shell σ) :
    DifferInMode Report.Paints (cmd.run sys (shell.inMode .always))
      (cmd.run sys (shell.inMode .never)) := by
  rw [run, run]
  cases Builtin.ofName? cmd.program with
  | some b => exact b.differInMode_run sys cmd.args shell
  | none =>
    -- programs are launched the same way in both modes
    have hlauncher (mode : ColorMode) : (shell.inMode mode).session.launcher.run sys
        (shell.inMode mode).session.workingDir cmd (shell.inMode mode).world =
          shell.session.launcher.run sys shell.session.workingDir cmd shell.world := rfl
    simp only [hlauncher]
    obtain ⟨e | stdout, world⟩ :=
      shell.session.launcher.run sys shell.session.workingDir cmd shell.world
    · exact ⟨.same _, { shell with world }, rfl, rfl⟩
    · exact ⟨.same _, { shell with world }, rfl, rfl⟩

theorem Plan.differInMode_execute (sys : System σ) (plan : Plan) (shell : Shell σ) :
    DifferInMode Report.Paints (plan.execute sys (shell.inMode .always))
      (plan.execute sys (shell.inMode .never)) := by
  cases hplan : plan with
  | simple cmd => exact cmd.differInMode_run sys shell
  | backgrounded cmd =>
    have hrun (mode : ColorMode) : (Plan.backgrounded cmd).execute sys (shell.inMode mode) =
        (((Plan.backgrounded cmd).execute sys shell).1,
          ((Plan.backgrounded cmd).execute sys shell).2.inMode mode) := by
      simp only [execute, Shell.inMode, Session.inMode]
      split <;> rfl
    rw [hrun, hrun]
    exact ⟨.same _, _, rfl, rfl⟩
  | _ => refine ⟨.same _, (plan.execute sys shell).2, ?_, ?_⟩ <;> rw [hplan] <;> rfl

namespace Dispatch

/-- What comes of a report is the same in both modes, and its text painted. -/
theorem differInMode_conclude (line : String) {a b : Report × Shell σ}
    (h : DifferInMode Report.Paints a b) :
    DifferInMode Dispatch.Paints (conclude line a.1 a.2) (conclude line b.1 b.2) := by
  obtain ⟨report, left⟩ := a
  obtain ⟨report', left'⟩ := b
  obtain ⟨hreport, shell, rfl, rfl⟩ := h
  have hrecorded (mode : ColorMode) : { shell.inMode mode with
      session := (shell.inMode mode).session.record line } =
        ({ shell with session := shell.session.record line } : Shell σ).inMode mode := rfl
  cases hreport with
  | text hpaints => exact ⟨.report hpaints, _, hrecorded .always, hrecorded .never⟩
  | same =>
    obtain e | text | raw | _ | _ := report
    · exact ⟨.report (Diagnostic.paints_render ..), _, hrecorded .always, hrecorded .never⟩
    · exact ⟨.same _, _, hrecorded .always, hrecorded .never⟩
    · exact ⟨.same _, _, hrecorded .always, hrecorded .never⟩
    · exact ⟨.same _, _, hrecorded .always, hrecorded .never⟩
    · exact ⟨.same _, shell, rfl, rfl⟩

theorem differInMode_outcomeOr (sys : System σ) (breakdown : Option (Breakdown σ)) (line : String)
    (shell : Shell σ) :
    DifferInMode Report.Paints (outcomeOr sys breakdown line (shell.inMode .always))
      (outcomeOr sys breakdown line (shell.inMode .never)) := by
  rw [outcomeOr, outcomeOr]
  cases Plan.parse line with
  | error e => exact ⟨.same _, shell, rfl, rfl⟩
  | ok plan =>
    simp only [Plan.executeOr]
    cases breakdown.filter fun _ => !plan.leaves with
    | some b => exact ⟨.same _, { shell with world := b.world }, rfl, rfl⟩
    | none => exact plan.differInMode_execute sys shell

theorem differInMode_ofLineOr (sys : System σ) (breakdown : Option (Breakdown σ)) (line : String)
    (shell : Shell σ) :
    DifferInMode Dispatch.Paints (ofLineOr sys breakdown line (shell.inMode .always))
      (ofLineOr sys breakdown line (shell.inMode .never)) := by
  by_cases hblank : Text.trim line = ""
  · rw [ofLineOr_of_blank sys breakdown _ hblank, ofLineOr_of_blank sys breakdown _ hblank]
    exact ⟨.same _, shell, rfl, rfl⟩
  · rw [ofLineOr_eq sys breakdown _ hblank, ofLineOr_eq sys breakdown _ hblank]
    exact differInMode_conclude _ (differInMode_outcomeOr sys breakdown _ shell)

/-- What comes of each line of a run, and the shell after it. -/
def steps (sys : System σ) : List (Entry σ) → Shell σ → List (Dispatch × Shell σ)
  | [], _ => []
  | entry :: entries, shell =>
    ofEntry sys entry shell :: steps sys entries (ofEntry sys entry shell).2

theorem differInMode_steps (sys : System σ) (entries : List (Entry σ)) (shell : Shell σ) :
    List.Forall₂ (DifferInMode Dispatch.Paints) (steps sys entries (shell.inMode .always))
      (steps sys entries (shell.inMode .never)) := by
  induction entries generalizing shell with
  | nil => exact .nil
  | cons entry entries ih =>
    have hstep : DifferInMode Dispatch.Paints (ofEntry sys entry (shell.inMode .always))
        (ofEntry sys entry (shell.inMode .never)) :=
      differInMode_ofLineOr sys entry.breakdown entry.line
        { shell with world := entry.meanwhile shell.world }
    obtain ⟨after, halways, hnever⟩ := hstep.shells
    refine .cons hstep ?_
    rw [halways, hnever]
    exact ih after

end Dispatch

/-- A text is another one when its colour sequences are taken out, unless the other one has escape
characters itself. -/
def Unpaints (a b : String) : Prop :=
  '\x1b' ∉ b.toList → unpaint a = b

theorem Palette.Paints.unpaints {a b : String} (h : Palette.Paints a b) : Unpaints a b :=
  h.unpaint_eq

/-- Answers of the same kind, of which the one is the other without its colours. Control sequences
are the same. -/
inductive Dispatch.Unpaints : Dispatch → Dispatch → Prop where
  | idle : Dispatch.Unpaints .idle .idle
  | exit : Dispatch.Unpaints .exit .exit
  | raw (text : String) : Dispatch.Unpaints (.raw text) (.raw text)
  | report {a b : String} : LineShell.Unpaints a b → Dispatch.Unpaints (.report a) (.report b)

/-- A shell that shows with colours what another one shows without. -/
structure Shell.Unpaints (a b : Shell σ) : Prop where
  history : a.session.history = b.session.history
  jobs : a.session.jobs = b.session.jobs
  workingDir : a.session.workingDir = b.session.workingDir
  world : a.world = b.world
  header : LineShell.Unpaints a.session.header b.session.header
  farewell : LineShell.Unpaints a.session.farewell b.session.farewell

theorem Dispatch.Paints.unpaints {a b : Dispatch} (h : Dispatch.Paints a b) : a.Unpaints b := by
  cases h with
  | report hpaints => exact .report hpaints.unpaints
  | same =>
    cases a with
    | idle => exact .idle
    | exit => exact .exit
    | raw text => exact .raw text
    | report text => exact .report (Palette.Paints.same text).unpaints

theorem Shell.unpaints_inMode (shell : Shell σ) :
    (shell.inMode .always).Unpaints (shell.inMode .never) where
  history := rfl
  jobs := rfl
  workingDir := rfl
  world := rfl
  header := shell.session.paints_header.unpaints
  farewell := shell.session.paints_farewell.unpaints

/-- Colour is only paint. A session with colours and one without, started over the same world, give
answers of the same kind at every line, and have the same history, jobs, working directory and world
after it; each text of the first is that of the second when the colour sequences are taken out of
it. The same is true of the header and the farewell at every moment, and of the banner. -/
theorem colours_are_paint (sys : System σ) (config : Config) (terminal : Bool) (workingDir : Path)
    (user host : String) (home : Option Path) (world : World σ) (entries : List (Entry σ)) :
    let start (mode : ColorMode) : Shell σ :=
      ⟨.start { config with color := mode } terminal workingDir user host home, world⟩
    (start .always).Unpaints (start .never) ∧
      List.Forall₂ (fun a b => a.1.Unpaints b.1 ∧ a.2.Unpaints b.2)
        (Dispatch.steps sys entries (start .always)) (Dispatch.steps sys entries (start .never)) ∧
      ∀ width, Unpaints (Banner.render (start .always).session.palette width)
        (Banner.render (start .never).session.palette width) := by
  intro start
  let shell : Shell σ := ⟨.start config terminal workingDir user host home, world⟩
  have halways : start .always = shell.inMode .always := rfl
  have hnever : start .never = shell.inMode .never := rfl
  rw [halways, hnever]
  refine ⟨shell.unpaints_inMode, ?_, fun width => (Banner.paints_render width).unpaints⟩
  refine (Dispatch.differInMode_steps sys entries shell).imp fun a b hstep => ?_
  obtain ⟨after, ha, hb⟩ := hstep.shells
  refine ⟨hstep.answers.unpaints, ?_⟩
  rw [ha, hb]
  exact after.unpaints_inMode

end LineShell
