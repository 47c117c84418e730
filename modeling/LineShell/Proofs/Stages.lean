import LineShell.Execute
import LineShell.Proofs.ByteMachine
import LineShell.Proofs.Calls

/-!
# What a pipeline asks of its system

The calls that a pipeline makes, whatever the system answers. The stages are started in order, each
fed by the one before it, up to the first that cannot be started. If there is such a stage, all
children are killed, and nothing else is asked; if there is none, what the last one wrote is
collected, and the others are waited for.
-/
namespace LineShell.Pipeline

/-- Where a stage reads from, given the children of the stages before it. -/
def feed (input : InputFrom) (pids : List Pid) : InputFrom :=
  (pids.getLast?.map .outputOf).getD input

@[simp] theorem feed_cons (input : InputFrom) (pid : Pid) (pids : List Pid) :
    feed input (pid :: pids) = feed (.outputOf pid) pids := by
  cases pids with
  | nil => rfl
  | cons p ps =>
    rw [feed, feed, List.getLast?_cons_cons, List.getLast?_eq_some_getLast (List.cons_ne_nil p ps)]
    rfl

/-- The calls by which stages become children, each of which reads what the one before it writes. -/
def startCalls (dir : Path) : InputFrom → List (SimpleCommand × Pid) → List Call
  | _, [] => []
  | input, (stage, pid) :: rest =>
    .start stage dir ⟨input, .piped, .inherited⟩ (.ok pid) :: startCalls dir (.outputOf pid) rest

/-- The calls of the start of some stages, of which the first has the given place, and what comes of
it: the children, and the fault if there is one. -/
inductive Begins (dir : Path) (index : ℕ) (input : InputFrom) (stages : List SimpleCommand) :
    List Pid × Option Fault → List Call → Prop
  | whole {pids : List Pid} : pids.length = stages.length →
      Begins dir index input stages (pids, none) (startCalls dir input (stages.zip pids))
  | upTo {pids : List Pid} {stage : SimpleCommand} {cause : IoError} :
      stages[pids.length]? = some stage →
      Begins dir index input stages (pids, some ⟨index + pids.length, stage.program, cause⟩)
        (startCalls dir input (stages.zip pids) ++
          [.start stage dir ⟨feed input pids, .piped, .inherited⟩ (.error cause)])

theorem Begins.cons {dir : Path} {index : ℕ} {input : InputFrom} {stage : SimpleCommand}
    {rest : List SimpleCommand} {pid : Pid} {pids : List Pid} {fault : Option Fault}
    {made : List Call} (h : Begins dir (index + 1) (.outputOf pid) rest (pids, fault) made) :
    Begins dir index input (stage :: rest) (pid :: pids, fault)
      (.start stage dir ⟨input, .piped, .inherited⟩ (.ok pid) :: made) := by
  cases h with
  | whole hlen =>
    have hlen' : (pid :: pids).length = (stage :: rest).length := congrArg (· + 1) hlen
    exact .whole hlen'
  | @upTo pids stage' cause hstage =>
    have hstage' : (stage :: rest)[(pid :: pids).length]? = some stage' := hstage
    have h : Begins dir index input (stage :: rest) (pid :: pids, some ⟨_, _, cause⟩) _ :=
      .upTo hstage'
    rwa [List.length_cons, feed_cons, Nat.add_comm pids.length, ← Nat.add_assoc] at h

variable {σ : Type} (sys : System σ) (dir : Path)

/-- A system that is watched starts stages as it does else, and these are the calls. -/
theorem start_watched (index : ℕ) (input : InputFrom) (stages : List SimpleCommand)
    (world : World σ) (calls : List Call) :
    ∃ made, Begins dir index input stages (start sys dir index input stages world).1 made ∧
      start sys.watched dir index input stages (world.watched calls) =
        ((start sys dir index input stages world).1,
          (start sys dir index input stages world).2.watched (calls ++ made)) := by
  induction stages generalizing index input world calls with
  | nil => exact ⟨[], .whole rfl, by simp [start]⟩
  | cons stage rest ih =>
    simp only [start, System.start_watched]
    generalize sys.start stage dir ⟨input, .piped, .inherited⟩ world = answer
    obtain ⟨cause | pid, after⟩ := answer
    · have hfirst : (stage :: rest)[([] : List Pid).length]? = some stage := rfl
      exact ⟨_, .upTo hfirst, rfl⟩
    · obtain ⟨made, hbegins, heq⟩ := ih (index + 1) (.outputOf pid) after
        (calls ++ [.start stage dir ⟨input, .piped, .inherited⟩ (.ok pid)])
      refine ⟨_, hbegins.cons, ?_⟩
      dsimp only
      rw [heq, List.append_assoc]
      rfl

/-- Calls that kill the given children, one after the other. -/
def Kills : List Pid → List Call → Prop :=
  List.Forall₂ fun pid call => ∃ answer, call = .kill pid answer

/-- Calls that wait for the given children, one after the other. -/
def Waits : List Pid → List Call → Prop :=
  List.Forall₂ fun pid call => ∃ answer, call = .wait pid answer

/-- What holds of each call on a child holds of all of them. -/
theorem forall_of_forall₂ {P : Pid → Call → Prop} {Q : Call → Prop} {pids : List Pid}
    {calls : List Call} (h : List.Forall₂ P pids calls) (hPQ : ∀ pid call, P pid call → Q call) :
    ∀ call ∈ calls, Q call := by
  induction h with
  | nil => simp
  | cons hcall _ ih => exact List.forall_mem_cons.2 ⟨hPQ _ _ hcall, ih⟩

/-- An operation that is done to one child after the other makes the calls of its steps. -/
theorem foldl_watched {P : Pid → Call → Prop} {op : World σ → Pid → World σ}
    {opWatched : World (Watched σ) → Pid → World (Watched σ)}
    (hop : ∀ world calls pid, ∃ call, P pid call ∧
      opWatched (world.watched calls) pid = (op world pid).watched (calls ++ [call]))
    (pids : List Pid) (world : World σ) (calls : List Call) :
    ∃ made, List.Forall₂ P pids made ∧
      pids.foldl opWatched (world.watched calls) =
        (pids.foldl op world).watched (calls ++ made) := by
  induction pids generalizing world calls with
  | nil => exact ⟨[], .nil, by simp⟩
  | cons pid pids ih =>
    obtain ⟨call, hcall, heq⟩ := hop world calls pid
    obtain ⟨made, hmade, hrest⟩ := ih (op world pid) (calls ++ [call])
    refine ⟨call :: made, .cons hcall hmade, ?_⟩
    rw [List.foldl_cons, heq, hrest, List.append_assoc]
    rfl

theorem killAll_watched (pids : List Pid) (world : World σ) (calls : List Call) :
    ∃ made, Kills pids made ∧
      killAll sys.watched pids (world.watched calls) =
        (killAll sys pids world).watched (calls ++ made) :=
  foldl_watched (fun _ _ _ => ⟨_, ⟨_, rfl⟩, rfl⟩) pids world calls

theorem waitAll_watched (pids : List Pid) (world : World σ) (calls : List Call) :
    ∃ made, Waits pids made ∧
      waitAll sys.watched pids (world.watched calls) =
        (waitAll sys pids world).watched (calls ++ made) :=
  foldl_watched (fun _ _ _ => ⟨_, ⟨_, rfl⟩, rfl⟩) pids world calls

def calls (stages : List SimpleCommand) (world : World σ) : List Call :=
  (run sys.watched dir stages (world.watched [])).2.outside.calls

/-- The ways in which a pipeline runs: its children, what comes of it, and the calls that it
makes. -/
inductive Runs (dir : Path) (stages : List SimpleCommand) :
    List Pid → Except ShellError String → List Call → Prop
  | nothing : stages = [] → Runs dir stages [] (.ok "") []
  | fault {pids : List Pid} {stage : SimpleCommand} {cause : IoError} {kills : List Call} :
      stages[pids.length]? = some stage → Kills pids kills →
      Runs dir stages pids (.error (.pipelineLaunch pids.length stage.program cause))
        (startCalls dir .inherited (stages.zip pids) ++
          .start stage dir ⟨feed .inherited pids, .piped, .inherited⟩ (.error cause) :: kills)
  | lost {pids : List Pid} {last : Pid} {e : IoError} :
      (pids ++ [last]).length = stages.length →
      Runs dir stages (pids ++ [last]) (.error (.io e))
        (startCalls dir .inherited (stages.zip (pids ++ [last])) ++ [.collect last (.error e)])
  | collected {pids : List Pid} {last : Pid} {remains : Remains} {waits : List Call} :
      (pids ++ [last]).length = stages.length → Waits pids waits →
      Runs dir stages (pids ++ [last]) (.ok (Text.trimEnd (Utf8.lossy remains.output)))
        (startCalls dir .inherited (stages.zip (pids ++ [last])) ++
          .collect last (.ok remains) :: waits)

/-- A pipeline runs in one of these ways, and watching it changes nothing. -/
theorem run_watched (stages : List SimpleCommand) (world : World σ) :
    Runs dir stages (start sys dir 0 .inherited stages world).1.1 (run sys dir stages world).1
        (calls sys dir stages world) ∧
      run sys.watched dir stages (world.watched []) =
        ((run sys dir stages world).1,
          (run sys dir stages world).2.watched (calls sys dir stages world)) := by
  obtain ⟨made, hbegins, heq⟩ := start_watched sys dir 0 .inherited stages world []
  rw [List.nil_append] at heq
  simp only [calls, run, heq]
  generalize start sys dir 0 .inherited stages world = begun at hbegins
  obtain ⟨⟨pids, fault⟩, after⟩ := begun
  cases hbegins with
  | upTo hstage =>
    obtain ⟨kills, hkills, hkill⟩ := killAll_watched sys pids after
      (startCalls dir .inherited (stages.zip pids) ++
        [.start _ dir ⟨feed .inherited pids, .piped, .inherited⟩ (.error _)])
    dsimp only
    rw [hkill, List.append_assoc, Nat.zero_add]
    exact ⟨.fault hstage hkills, rfl⟩
  | whole hlen =>
    dsimp only
    cases hlast : pids.getLast? with
    | none =>
      obtain rfl := List.getLast?_eq_none_iff.1 hlast
      obtain rfl := List.length_eq_zero_iff.1 hlen.symm
      exact ⟨.nothing rfl, rfl⟩
    | some last =>
      obtain ⟨front, rfl⟩ := List.getLast?_eq_some_iff.1 hlast
      simp only [System.collect_watched, List.dropLast_concat]
      generalize sys.collect last after = answer
      obtain ⟨e | remains, after'⟩ := answer
      · exact ⟨.lost hlen, rfl⟩
      · obtain ⟨waits, hwaits, hwait⟩ := waitAll_watched sys front after'
          (startCalls dir .inherited (stages.zip (front ++ [last])) ++
            [.collect last (.ok remains)])
        dsimp only
        rw [hwait, List.append_assoc]
        exact ⟨.collected hlen hwaits, rfl⟩

end LineShell.Pipeline
