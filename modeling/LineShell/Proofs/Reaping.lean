import LineShell.Proofs.Stages

/-!
# No child is left behind

A pipeline of which a stage cannot be started kills every child that it has started, and starts no
further one. A pipeline that comes to its end has waited for every child. Neither touches the
session.
-/
namespace LineShell

/-- Whether a child could not be killed, or not be waited for, by a call. -/
def Call.hasFailedToEnd : Call → Bool
  | .kill _ (.error _) | .wait _ (.error _) => true
  | _ => false

namespace Pipeline

/-- The answers to the requests to start programs. -/
def startAnswers (calls : List Call) : List (Except IoError Pid) :=
  calls.filterMap Call.startAnswer?

@[simp] theorem startAnswers_nil : startAnswers [] = [] := rfl

@[simp] theorem startAnswers_append (calls calls' : List Call) :
    startAnswers (calls ++ calls') = startAnswers calls ++ startAnswers calls' :=
  List.filterMap_append

@[simp] theorem startAnswers_cons (call : Call) (calls : List Call) :
    startAnswers (call :: calls) = call.startAnswer?.toList ++ startAnswers calls := by
  cases call <;> rfl

theorem startAnswers_startCalls (dir : Path) (input : InputFrom) {stages : List SimpleCommand}
    {pids : List Pid} (h : pids.length ≤ stages.length) :
    startAnswers (startCalls dir input (stages.zip pids)) = pids.map .ok := by
  induction pids generalizing input stages with
  | nil => rw [List.zip_nil_right]; rfl
  | cons pid pids ih =>
    cases stages with
    | nil => simp at h
    | cons stage rest => exact congrArg _ (ih (.outputOf pid) (by simpa using h))

theorem isKill_of_mem_startCalls {dir : Path} {input : InputFrom}
    {children : List (SimpleCommand × Pid)} {call : Call}
    (h : call ∈ startCalls dir input children) : call.isKill = false := by
  induction children generalizing input with
  | nil => simp [startCalls] at h
  | cons child rest ih =>
    obtain rfl | h := List.mem_cons.1 h
    · rfl
    · exact ih h

/-- What is done to each child in turn is done to every child. -/
theorem exists_call_of_mem {P : Pid → Call → Prop} {pids : List Pid} {calls : List Call}
    (h : List.Forall₂ P pids calls) {pid : Pid} (hpid : pid ∈ pids) :
    ∃ call ∈ calls, P pid call := by
  induction h with
  | nil => simp at hpid
  | cons hcall _ ih =>
    obtain rfl | hpid := List.mem_cons.1 hpid
    · exact ⟨_, List.mem_cons_self, hcall⟩
    · obtain ⟨call, hmem, hP⟩ := ih hpid
      exact ⟨call, List.mem_cons_of_mem _ hmem, hP⟩

theorem startAnswers_of_kills {pids : List Pid} {kills : List Call} (h : Kills pids kills) :
    startAnswers kills = [] :=
  List.filterMap_eq_nil_iff.2 (forall_of_forall₂ h fun _ _ ⟨_, hcall⟩ => hcall ▸ rfl)

theorem startAnswers_of_waits {pids : List Pid} {waits : List Call} (h : Waits pids waits) :
    startAnswers waits = [] :=
  List.filterMap_eq_nil_iff.2 (forall_of_forall₂ h fun _ _ ⟨_, hcall⟩ => hcall ▸ rfl)

/-- Kills that succeed. -/
theorem eq_map_of_kills {pids : List Pid} {kills : List Call} (h : Kills pids kills)
    (hends : ∀ call ∈ kills, call.hasFailedToEnd = false) :
    kills = pids.map fun pid => .kill pid (.ok ()) := by
  induction h with
  | nil => rfl
  | cons hcall _ ih =>
    obtain ⟨answer, rfl⟩ := hcall
    rw [List.forall_mem_cons] at hends
    rw [List.map_cons, ← ih hends.2]
    obtain _ | _ := answer
    · simp [Call.hasFailedToEnd] at hends
    · rfl

/-- Waits that succeed. -/
theorem exists_reaps_of_waits {pids : List Pid} {waits : List Call} (h : Waits pids waits)
    (hends : ∀ call ∈ waits, call.hasFailedToEnd = false) {pid : Pid} (hpid : pid ∈ pids) :
    ∃ call ∈ waits, call.Reaps pid := by
  obtain ⟨_, hmem, answer, rfl⟩ := exists_call_of_mem h hpid
  obtain _ | _ := answer
  · simpa [Call.hasFailedToEnd] using hends _ hmem
  · exact ⟨_, hmem, rfl, rfl⟩

section
variable {pids pids' : List Pid} {cause cause' : IoError} {later : List (Except IoError Pid)}

/-- The first fault in a list of answers is where it is. -/
theorem eq_of_faults_prefix
    (h : pids.map .ok ++ [.error cause] <+: pids'.map .ok ++ .error cause' :: later) :
    pids = pids' ∧ cause = cause' := by
  induction pids generalizing pids' with
  | nil =>
    cases pids' with
    | nil => simpa using h
    | cons pid' pids' => simp at h
  | cons pid pids ih =>
    cases pids' with
    | nil => simp at h
    | cons pid' pids' =>
      simp only [List.map_cons, List.cons_append, List.cons_prefix_cons, Except.ok.injEq] at h
      obtain ⟨hpids, hcause⟩ := ih h.2
      exact ⟨by rw [h.1, hpids], hcause⟩

/-- No more starts succeed than there are before the first fault. -/
theorem length_le_of_prefix (h : pids.map .ok <+: pids'.map .ok ++ .error cause' :: later) :
    pids.length ≤ pids'.length := by
  induction pids generalizing pids' with
  | nil => exact Nat.zero_le _
  | cons pid pids ih =>
    cases pids' with
    | nil => simp at h
    | cons pid' pids' =>
      simp only [List.map_cons, List.cons_append, List.cons_prefix_cons] at h
      exact Nat.succ_le_succ (ih h.2)

end

variable {dir : Path} {stages : List SimpleCommand} {children : List Pid}
  {result : Except ShellError String} {made : List Call} {answers : List (Except IoError Pid)}

/-- A fault among the answers comes after all stages, if all are started. -/
theorem length_le_of_whole {pids : List Pid} {cause : IoError} {rest : List Call}
    {later : List (Except IoError Pid)} (h : children.length = stages.length)
    (hanswers : startAnswers (startCalls dir .inherited (stages.zip children) ++ rest) <+:
      pids.map .ok ++ .error cause :: later) : stages.length ≤ pids.length := by
  rw [startAnswers_append, startAnswers_startCalls dir _ (Nat.le_of_eq h)] at hanswers
  exact h ▸ length_le_of_prefix ((List.prefix_append _ _).trans hanswers)

/-- What a pipeline does of which a stage cannot be started. -/
theorem Runs.of_fault (h : Runs dir stages children result made)
    (hlen : answers.length = stages.length)
    (hanswers : startAnswers made <+: answers) (hends : ∀ call ∈ made, call.hasFailedToEnd = false)
    {pids : List Pid} {cause : IoError} {later : List (Except IoError Pid)}
    (hfault : answers = pids.map .ok ++ .error cause :: later) :
    ∃ stage, stages[pids.length]? = some stage ∧
      result = .error (.pipelineLaunch pids.length stage.program cause) ∧
      made = startCalls dir .inherited (stages.zip pids) ++
        .start stage dir ⟨feed .inherited pids, .piped, .inherited⟩ (.error cause) ::
          pids.map fun pid => .kill pid (.ok ()) := by
  subst hfault
  have hlt : pids.length < stages.length := by
    rw [← hlen]
    simp
  cases h with
  | nothing hnil => simp [hnil] at hlt
  | @fault pids' stage cause' kills hstage hkills =>
    have hle := Nat.le_of_lt (List.getElem?_eq_some_iff.1 hstage).1
    have hkilled := eq_map_of_kills hkills fun call hcall => hends call (by simp [hcall])
    rw [startAnswers_append, startAnswers_startCalls dir _ hle, startAnswers_cons,
      startAnswers_of_kills hkills, List.append_nil] at hanswers
    obtain ⟨rfl, rfl⟩ := eq_of_faults_prefix hanswers
    exact ⟨stage, hstage, rfl, by rw [hkilled]⟩
  | lost hall => exact absurd hlt (Nat.not_lt.2 (length_le_of_whole hall hanswers))
  | collected hall _ => exact absurd hlt (Nat.not_lt.2 (length_le_of_whole hall hanswers))

/-- What a pipeline does of which every stage is started. -/
theorem Runs.of_whole (h : Runs dir stages children result made)
    (hlen : answers.length = stages.length)
    (hanswers : startAnswers made <+: answers) (hends : ∀ call ∈ made, call.hasFailedToEnd = false)
    {pids : List Pid} (hwhole : answers = pids.map .ok) :
    (∀ call ∈ made, call.isKill = false) ∧ startAnswers made = answers ∧
      ∀ text, result = .ok text → ∀ pid ∈ pids, ∃ call ∈ made, call.Reaps pid := by
  have hwaits_none {waits : List Call} {front : List Pid} (hwaits : Waits front waits) :
      ∀ call ∈ waits, call.isKill = false :=
    forall_of_forall₂ hwaits fun _ _ ⟨_, hcall⟩ => hcall ▸ rfl
  cases h with
  | nothing hnil =>
    obtain rfl : answers = [] := List.length_eq_zero_iff.1 (by rw [hlen, hnil]; rfl)
    obtain rfl : pids = [] := by simpa using hwhole.symm
    simp [startAnswers]
  | @fault pids' stage cause kills hstage hkills =>
    have hmem : Except.error cause ∈ answers := hanswers.subset (by simp [Call.startAnswer?])
    simp [hwhole] at hmem
  | @lost front last e hall =>
    have hstarts := startAnswers_startCalls dir .inherited (Nat.le_of_eq hall)
    refine ⟨?_, hanswers.eq_of_length ?_, by simp⟩
    · rw [List.forall_mem_append]
      exact ⟨fun call => isKill_of_mem_startCalls, by simp [Call.isKill]⟩
    · simp [hstarts, Call.startAnswer?, hlen, ← hall]
  | @collected front last remains waits hall hwaits =>
    have hstarts := startAnswers_startCalls dir .inherited (Nat.le_of_eq hall)
    have hmade : startAnswers (startCalls dir .inherited (stages.zip (front ++ [last])) ++
        .collect last (.ok remains) :: waits) = (front ++ [last]).map .ok := by
      simp [hstarts, startAnswers_of_waits hwaits, Call.startAnswer?]
    have heq := hanswers.eq_of_length (by rw [hmade, List.length_map, hall, hlen])
    have hpids : front ++ [last] = pids :=
      (List.map_inj_right fun _ _ => Except.ok.inj).1 (hmade.symm.trans (heq.trans hwhole))
    refine ⟨?_, heq, fun text _ pid hpid => ?_⟩
    · rw [List.forall_mem_append, List.forall_mem_cons]
      exact ⟨fun call => isKill_of_mem_startCalls, rfl, hwaits_none hwaits⟩
    · rw [← hpids, List.mem_append, List.mem_singleton] at hpid
      obtain hpid | rfl := hpid
      · obtain ⟨call, hmem, hreaps⟩ := exists_reaps_of_waits hwaits
          (fun call hcall => hends call (by simp [hcall])) hpid
        exact ⟨call, by simp [hmem], hreaps⟩
      · exact ⟨.collect pid (.ok remains), by simp, rfl, remains, rfl⟩

/-- A pipeline leaves no child behind, and the session as it was. Of all ways in which the starts of
its stages may be answered: if a stage is the first that cannot be started, then the children of the
stages before it, which were started in order, are all killed, no other stage is tried, and the
error names the stage; if every stage is started, no child is killed, and when the pipeline has a
result, every child has been waited for. -/
theorem piped_reaps {σ : Type} (sys : System σ) (stages : List SimpleCommand) (shell : Shell σ)
    (answers : List (Except IoError Pid)) (hlen : answers.length = stages.length)
    (hanswers : startAnswers (calls sys shell.session.workingDir stages shell.world) <+: answers)
    (hends : ∀ call ∈ calls sys shell.session.workingDir stages shell.world,
      call.hasFailedToEnd = false) :
    let dir := shell.session.workingDir
    let made := calls sys dir stages shell.world
    let after := (Plan.piped stages).execute sys shell
    after.2.session = shell.session ∧
      (∀ (pids : List Pid) cause later, answers = pids.map .ok ++ .error cause :: later →
        ∃ stage, stages[pids.length]? = some stage ∧
          after.1 = .error (.pipelineLaunch pids.length stage.program cause) ∧
          made = startCalls dir .inherited (stages.zip pids) ++
            .start stage dir ⟨feed .inherited pids, .piped, .inherited⟩ (.error cause) ::
              pids.map fun pid => .kill pid (.ok ())) ∧
      ∀ pids : List Pid, answers = pids.map .ok →
        (∀ call ∈ made, call.isKill = false) ∧ startAnswers made = answers ∧
          ∀ text, after.1 = .ok (.text text) → ∀ pid ∈ pids, ∃ call ∈ made, call.Reaps pid := by
  intro dir made after
  have hruns := (run_watched sys dir stages shell.world).1
  have hafter : after.1 = (run sys dir stages shell.world).1.map .text := rfl
  refine ⟨rfl, fun pids cause later hfault => ?_, fun pids hwhole => ?_⟩
  · obtain ⟨stage, hstage, hresult, hmade⟩ := hruns.of_fault hlen hanswers hends hfault
    exact ⟨stage, hstage, by rw [hafter, hresult]; rfl, hmade⟩
  · obtain ⟨hkill, hstarts, hreaps⟩ := hruns.of_whole hlen hanswers hends hwhole
    refine ⟨hkill, hstarts, fun text htext => hreaps text ?_⟩
    rw [hafter] at htext
    cases hresult : (run sys dir stages shell.world).1 with
    | error e => simp [hresult, Except.map] at htext
    | ok text' => simpa [hresult, Except.map] using htext

/-- The second of three stages is not there. -/
theorem piped_reaps_first_of_three :
    let sys := System.ofFunctions fun cmd => if cmd.program = "lost" then none else some id
    let shell : Shell ByteMachine := ⟨(Shell.startIn ⟨[]⟩).session, .reading []⟩
    let stages : List SimpleCommand := [⟨"cat", []⟩, ⟨"lost", []⟩, ⟨"wc", []⟩]
    let after := (Plan.piped stages).execute sys shell
    after.2.session = shell.session ∧
      after.1 = .error (.pipelineLaunch 1 "lost" (.os .noEntry)) ∧
      calls sys "/" stages shell.world =
        [.start ⟨"cat", []⟩ "/" ⟨.inherited, .piped, .inherited⟩ (.ok 2),
          .start ⟨"lost", []⟩ "/" ⟨.outputOf 2, .piped, .inherited⟩ (.error (.os .noEntry)),
          .kill 2 (.ok ())] := by
  intro sys shell stages after
  obtain ⟨hsession, hfault, -⟩ := piped_reaps sys stages shell
    [.ok 2, .error (.os .noEntry), .ok 3] rfl (by decide) (by decide)
  obtain ⟨stage, hstage, hresult, hmade⟩ := hfault [2] (.os .noEntry) [.ok 3] rfl
  obtain rfl : ⟨"lost", []⟩ = stage := Option.some.inj hstage
  exact ⟨hsession, hresult, hmade⟩

end Pipeline
end LineShell
