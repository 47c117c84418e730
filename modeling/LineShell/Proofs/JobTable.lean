import LineShell.Proofs.ByteMachine
import LineShell.Proofs.History

/-!
# The table of jobs

What a run of lines leaves in the table of jobs. A line adds a job when it is a command in the
background that could be started, and then it adds this one job at the end; no other line touches
the table, and nothing ever leaves it.
-/
namespace LineShell

namespace Job
variable {σ : Type} (sys : System σ) (dir : Path) {cmd : SimpleCommand} (world : World σ)

/-- Arguments that tell how long to sleep: a single word, of digits. -/
def IsDuration (args : List String) : Prop :=
  ∃ word, args = [word] ∧ word ≠ "" ∧ ∀ c ∈ word.toList, '0' ≤ c ∧ c ≤ '9'

theorem isDigit_iff (c : Char) : c.isDigit = true ↔ '0' ≤ c ∧ c ≤ '9' := by
  simp [Char.isDigit, Char.le_def]

theorem isDuration_iff {args : List String} : isDuration args = true ↔ IsDuration args := by
  unfold isDuration IsDuration
  split
  · simp [isDigit_iff]
  · next hne => simpa using fun word h => absurd h (hne word)

/-- Whether the arguments of a command are such that a start is tried. -/
def IsAllowed (cmd : SimpleCommand) : Prop :=
  cmd.program = "sleep" → IsDuration cmd.args

/-- A sleep without a duration is refused before anything is asked of the system. -/
theorem launch_of_not_isAllowed (h : ¬ IsAllowed cmd) :
    launch sys dir cmd world = (.error (.invalidArguments "sleep" HowTo.sleep), world) := by
  obtain ⟨hsleep, hargs⟩ := Classical.not_imp.1 h
  have hduration : isDuration cmd.args = false := by simpa [← isDuration_iff] using hargs
  rw [launch, hsleep, hduration]
  rfl

theorem launch_of_isAllowed (h : IsAllowed cmd) :
    launch sys dir cmd world =
      ((sys.start cmd dir .shared world).1.mapError (.ofSpawn cmd) |>.map (⟨·, cmd.display⟩),
        (sys.start cmd dir .shared world).2) := by
  have hcheck : (decide (cmd.program = "sleep") && !isDuration cmd.args) = false := by
    simpa [IsAllowed, ← isDuration_iff] using h
  rw [launch, hcheck]
  obtain ⟨e | pid, after⟩ := sys.start cmd dir .shared world <;> rfl

end Job

namespace Plan
variable {σ : Type} {sys : System σ} {shell : Shell σ}

theorem newJob?_eq_some_iff {plan : Plan} {job : Job} :
    plan.newJob? sys shell = some job ↔
      ∃ cmd, plan = .backgrounded cmd ∧ Job.IsAllowed cmd ∧
        (sys.start cmd shell.session.workingDir .shared shell.world).1 = .ok job.pid ∧
        job.command = cmd.display := by
  cases plan with
  | backgrounded cmd =>
    rw [newJob?]
    by_cases hallowed : Job.IsAllowed cmd
    · rw [Job.launch_of_isAllowed sys _ shell.world hallowed]
      obtain ⟨pid, command⟩ := job
      cases hstart : (sys.start cmd shell.session.workingDir .shared shell.world).1 <;>
        simp [hstart, Except.mapError, Except.map, Except.toOption, hallowed, eq_comm]
    · rw [Job.launch_of_not_isAllowed sys _ shell.world hallowed]
      simp [Except.toOption, hallowed]
  | _ => simp [newJob?]

end Plan

namespace Dispatch
variable {σ : Type} (sys : System σ)

/-- What is recorded of a line is only the line. -/
theorem jobs_conclude (line : String) (report : Report) (shell : Shell σ) :
    (conclude line report shell).2.session.jobs = shell.session.jobs := by
  obtain e | _ | _ | _ | _ := report <;> rfl

theorem noOp_of_parse {line : String} {plan : Plan} (h : Plan.parse (Text.trim line) = .ok plan)
    (hblank : Text.trim line = "") : plan = .noOp := by
  have hempty : Plan.parse "" = .ok .noOp := by decide +kernel
  rw [hblank, hempty, Except.ok.injEq] at h
  exact h.symm

theorem trim_ne_of_parse {line : String} {plan : Plan}
    (h : Plan.parse (Text.trim line) = .ok plan) (hplan : plan ≠ .noOp) : Text.trim line ≠ "" :=
  mt (noOp_of_parse h) hplan

/-- A command that breaks down, or is not read at all, leaves the session as it was. -/
theorem session_outcomeOr_of_some (b : Breakdown σ) (line : String) (shell : Shell σ) :
    (outcomeOr sys (some b) line shell).2.session = shell.session := by
  rw [outcomeOr]
  cases Plan.parse line with
  | error e => rfl
  | ok plan =>
    cases hleaves : plan.leaves with
    | true => simp [Plan.executeOr, hleaves, Plan.execute_of_leaves sys shell hleaves]
    | false => simp [Plan.executeOr, hleaves, Option.filter]

theorem outcomeOr_none_of_parse {line : String} {plan : Plan} (h : Plan.parse line = .ok plan)
    (shell : Shell σ) : outcomeOr sys none line shell = plan.execute sys shell := by
  rw [outcomeOr, h]
  rfl

/-- A line that starts a job: it asks for a command in the background, the command is allowed, and
the system starts it. -/
def Starts (entry : Entry σ) (shell : Shell σ) (job : Job) : Prop :=
  entry.breakdown = none ∧ ∃ cmd, Plan.parse (Text.trim entry.line) = .ok (.backgrounded cmd) ∧
    Job.IsAllowed cmd ∧
    (sys.start cmd shell.session.workingDir .shared (entry.meanwhile shell.world)).1 = .ok job.pid ∧
    job.command = " ".intercalate (cmd.program :: cmd.args)

/-- The jobs that the lines of a run start, in the order of the lines. -/
inductive Launches : List (Entry σ) → Shell σ → List Job → Prop
  | nil {shell : Shell σ} : Launches [] shell []
  | job {entry : Entry σ} {entries : List (Entry σ)} {shell : Shell σ} {job : Job}
      {jobs : List Job} : Starts sys entry shell job →
      Launches entries (ofEntry sys entry shell).2 jobs →
      Launches (entry :: entries) shell (job :: jobs)
  | noJob {entry : Entry σ} {entries : List (Entry σ)} {shell : Shell σ} {jobs : List Job} :
      (∀ job, ¬ Starts sys entry shell job) → Launches entries (ofEntry sys entry shell).2 jobs →
      Launches (entry :: entries) shell jobs

variable {sys} {entry : Entry σ} {shell : Shell σ}

theorem ofEntry_eq (h : Text.trim entry.line ≠ "") :
    ofEntry sys entry shell =
      let outcome := outcomeOr sys entry.breakdown (Text.trim entry.line)
        { shell with world := entry.meanwhile shell.world }
      conclude (Text.trim entry.line) outcome.1 outcome.2 := by
  rw [ofEntry, ofLineOr_eq sys _ _ h]

/-- A job that is started is announced, and goes to the end of the table. -/
theorem ofEntry_of_starts {job : Job} (h : Starts sys entry shell job) :
    (ofEntry sys entry shell).1 = .report job.announcement ∧
      (ofEntry sys entry shell).2.session.jobs = shell.session.jobs ++ [job] := by
  obtain ⟨hwhole, cmd, hparse, hallowed, hstart, hcommand⟩ := h
  have hjob : Job.mk job.pid cmd.display = job :=
    congrArg (Job.mk job.pid) hcommand.symm
  have hexec := outcomeOr_none_of_parse sys hparse
    { shell with world := entry.meanwhile shell.world }
  simp only [Plan.execute, Job.launch_of_isAllowed sys _ _ hallowed, hstart] at hexec
  rw [ofEntry_eq (trim_ne_of_parse hparse (by simp)), hwhole, hexec]
  simp [Except.mapError, Except.map, conclude, Session.record, hjob]

/-- A line that starts no job leaves the table as it was. -/
theorem ofEntry_of_not_starts (h : ∀ job, ¬ Starts sys entry shell job) :
    (ofEntry sys entry shell).2.session.jobs = shell.session.jobs := by
  by_cases hblank : Text.trim entry.line = ""
  · rw [ofEntry, ofLineOr_of_blank sys _ _ hblank]
  rw [ofEntry_eq hblank, jobs_conclude]
  cases hbreak : entry.breakdown with
  | some b => rw [session_outcomeOr_of_some]
  | none =>
    cases hparse : Plan.parse (Text.trim entry.line) with
    | error e => simp [outcomeOr, hparse]
    | ok plan =>
      rw [outcomeOr_none_of_parse sys hparse, Plan.session_execute]
      have hnone : plan.newJob? sys { shell with world := entry.meanwhile shell.world } = none := by
        rw [Option.eq_none_iff_forall_ne_some]
        intro job hjob
        obtain ⟨cmd, rfl, hallowed, hstart, hcommand⟩ := Plan.newJob?_eq_some_iff.1 hjob
        exact h job ⟨hbreak, cmd, hparse, hallowed, hstart, hcommand⟩
      simp [hnone]

/-- The table after a run is the table before it, with the jobs that its lines have started. -/
theorem exists_launches (sys : System σ) (entries : List (Entry σ)) (shell : Shell σ) :
    ∃ jobs, Launches sys entries shell jobs ∧
      (ofEntries sys entries shell).session.jobs = shell.session.jobs ++ jobs := by
  induction entries generalizing shell with
  | nil => exact ⟨[], .nil, (List.append_nil _).symm⟩
  | cons entry entries ih =>
    obtain ⟨jobs, hjobs, htable⟩ := ih (ofEntry sys entry shell).2
    by_cases hstarts : ∃ job, Starts sys entry shell job
    · obtain ⟨job, hjob⟩ := hstarts
      refine ⟨job :: jobs, .job hjob hjobs, ?_⟩
      rw [ofEntries, htable, (ofEntry_of_starts hjob).2, List.append_assoc]
      rfl
    · have hnone := not_exists.1 hstarts
      refine ⟨jobs, .noJob hnone hjobs, ?_⟩
      rw [ofEntries, htable, ofEntry_of_not_starts hnone]

theorem ofEntries_append (entries entries' : List (Entry σ)) (shell : Shell σ) :
    ofEntries sys (entries ++ entries') shell =
      ofEntries sys entries' (ofEntries sys entries shell) := by
  induction entries generalizing shell with
  | nil => rfl
  | cons entry entries ih => exact ih _

/-- A sleep that is not allowed asks nothing of the system, and is answered with how to sleep. -/
theorem ofEntry_of_not_isAllowed {cmd : SimpleCommand} (hwhole : entry.breakdown = none)
    (hparse : Plan.parse (Text.trim entry.line) = .ok (.backgrounded cmd))
    (h : ¬ Job.IsAllowed cmd) :
    ofEntry sys entry shell =
      (.report (shell.session.palette.paint .red HowTo.sleep),
        ⟨shell.session.record (Text.trim entry.line), entry.meanwhile shell.world⟩) := by
  have hexec := outcomeOr_none_of_parse sys hparse
    { shell with world := entry.meanwhile shell.world }
  simp only [Plan.execute, Job.launch_of_not_isAllowed sys _ _ h] at hexec
  rw [ofEntry_eq (trim_ne_of_parse hparse (by simp)), hwhole, hexec]
  simp [conclude, Session.diagnose, Diagnostic.render, Diagnostic.body, Diagnostic.hint,
    Diagnostic.complaint]

/-- The jobs command shows the table, one line for each job. -/
theorem ofEntry_jobs {args : List String} (hwhole : entry.breakdown = none)
    (hparse : Plan.parse (Text.trim entry.line) = .ok (.simple ⟨"jobs", args⟩)) :
    (ofEntry sys entry shell).1 = .report (Builtin.jobsText shell.session.jobs) := by
  have hname : Builtin.ofName? "jobs" = some .jobs := Builtin.ofName?_name .jobs
  have hexec := outcomeOr_none_of_parse sys hparse
    { shell with world := entry.meanwhile shell.world }
  simp only [Plan.execute, SimpleCommand.run, hname] at hexec
  rw [ofEntry_eq (trim_ne_of_parse hparse (by simp)), hwhole, hexec]
  rfl

/-- The table of jobs accounts for the commands that were started in the background. After a run it
is what it was before, with one entry for each line that has started a job, in order, so that no
entry is ever lost or moved. A line that starts a job announces it; any other line leaves the table
alone; a sleep without a duration comes back before anything is asked of the system; and the jobs
command shows the entries one by one. -/
theorem jobs_account (sys : System σ) :
    (∀ (entries : List (Entry σ)) (shell : Shell σ), ∃ jobs, Launches sys entries shell jobs ∧
      (ofEntries sys entries shell).session.jobs = shell.session.jobs ++ jobs) ∧
    (∀ (entries later : List (Entry σ)) (shell : Shell σ),
      (ofEntries sys entries shell).session.jobs <+:
        (ofEntries sys (entries ++ later) shell).session.jobs) ∧
    ∀ (entry : Entry σ) (shell : Shell σ),
      let after := ofEntry sys entry shell
      (∀ job, Starts sys entry shell job →
        after.1 = .report (s!"[{job.pid}] Running in background: " ++ job.command) ∧
          after.2.session.jobs = shell.session.jobs ++ [job]) ∧
      ((∀ job, ¬ Starts sys entry shell job) → after.2.session.jobs = shell.session.jobs) ∧
      (entry.breakdown = none →
        (∀ cmd, Plan.parse (Text.trim entry.line) = .ok (.backgrounded cmd) →
          cmd.program = "sleep" → ¬ Job.IsDuration cmd.args →
          after = (.report (shell.session.palette.paint .red HowTo.sleep),
            ⟨shell.session.record (Text.trim entry.line), entry.meanwhile shell.world⟩)) ∧
        ∀ args, Plan.parse (Text.trim entry.line) = .ok (.simple ⟨"jobs", args⟩) →
          after.1 = .report ("\n".intercalate
            (shell.session.jobs.map fun job => s!"[{job.pid}] " ++ job.command))) := by
  refine ⟨exists_launches sys, fun entries later shell => ?_, fun entry shell => ⟨?_, ?_, ?_⟩⟩
  · obtain ⟨jobs, -, htable⟩ := exists_launches sys later (ofEntries sys entries shell)
    rw [ofEntries_append, htable]
    exact List.prefix_append _ _
  · exact fun job hjob => ofEntry_of_starts hjob
  · exact ofEntry_of_not_starts
  · refine fun hwhole => ⟨fun cmd hparse hsleep hargs => ?_, fun args hparse => ?_⟩
    · exact ofEntry_of_not_isAllowed hwhole hparse fun hallowed => hargs (hallowed hsleep)
    · exact ofEntry_jobs hwhole hparse

/-- A run in which a sleep is refused, two commands are started and one is not there. -/
theorem jobs_account_of_two :
    let sys := System.ofFunctions fun cmd => if cmd.program = "lost" then none else some id
    let shell : Shell ByteMachine := ⟨(Shell.startIn ⟨[]⟩).session, .reading []⟩
    let entries : List (Entry ByteMachine) :=
      [⟨"sleep x &", id, none⟩, ⟨"sleep 5 &", id, none⟩, ⟨"lost &", id, none⟩,
        ⟨"cat | wc", id, none⟩, ⟨"wc -l &", id, none⟩]
    let after := ofEntries sys entries shell
    after.session.jobs = [⟨2, "sleep 5"⟩, ⟨5, "wc -l"⟩] ∧
      shell.session.jobs <+: after.session.jobs ∧
      (ofEntry sys ⟨"jobs", id, none⟩ after).1 = .report "[2] sleep 5\n[5] wc -l" ∧
      (ofEntry sys ⟨"sleep x &", id, none⟩ after).1 = .report HowTo.sleep ∧
      (ofEntry sys ⟨"wc &", id, none⟩ after).1 = .report "[6] Running in background: wc" := by
  intro sys shell entries after
  obtain ⟨-, hgrows, hstep⟩ := jobs_account sys
  have htable : after.session.jobs = [⟨2, "sleep 5"⟩, ⟨5, "wc -l"⟩] := by decide +kernel
  obtain ⟨-, -, hwhole⟩ := hstep ⟨"jobs", id, none⟩ after
  have hjobs := (hwhole rfl).2 [] (by decide +kernel)
  obtain ⟨-, -, hwhole⟩ := hstep ⟨"sleep x &", id, none⟩ after
  have hsleep := (hwhole rfl).1 ⟨"sleep", ["x"]⟩ (by decide +kernel) rfl
    (mt Job.isDuration_iff.2 (by decide))
  obtain ⟨hstarts, -⟩ := hstep ⟨"wc &", id, none⟩ after
  have hallowed : Job.IsAllowed ⟨"wc", []⟩ := fun h => absurd h (by decide)
  have hwc := hstarts ⟨6, "wc"⟩
    ⟨rfl, ⟨"wc", []⟩, by decide +kernel, hallowed, by decide +kernel, by decide⟩
  refine ⟨htable, hgrows [] entries shell, ?_, ?_, ?_⟩
  · rw [hjobs, htable]
    decide
  · rw [hsleep]
    decide +kernel
  · rw [hwc.1]
    decide

end Dispatch
end LineShell
