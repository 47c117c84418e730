import LineShell.Proofs.Stages
import Mathlib.Data.List.Nodup

/-!
# A pipeline composes its stages

If every stage turns the bytes that it reads into bytes that it writes, then a pipeline does what
its stages do one after the other. What a stage writes goes to the next one as it is, and to no
other; only what the last one writes becomes text, without the blanks at its end.
-/
namespace LineShell

/-- What can be said of the children in a world. -/
structure ChildView (σ : Type) where
  /-- Whether programs can be started that do what is expected of them. -/
  Ready : World σ → Prop
  /-- Whether a process id belongs to a child that was not waited for. -/
  Known : World σ → Pid → Prop
  /-- What a child writes to its pipe, as long as nobody else was given it. -/
  written : World σ → Pid → Option Bytes

/-- What a child reads that has the given input, if it reads to the end. -/
def ChildView.readable {σ : Type} (view : ChildView σ) (world : World σ) :
    InputFrom → Option Bytes
  | .inherited => world.input.toOption
  | .outputOf pid => view.written world pid

/-- A system in which stages are functions on bytes: each can be started, as a child that was not
there before, and writes what its function makes of all that it reads; and what is written to a pipe
can be collected. -/
structure System.Filters {σ : Type} (sys : System σ) (dir : Path) (stages : List SimpleCommand)
    (f : SimpleCommand → Bytes → Bytes) (view : ChildView σ) : Prop where
  start : ∀ stage ∈ stages, ∀ world input bytes, view.Ready world →
    view.readable world input = some bytes → ∃ pid after,
      sys.start stage dir ⟨input, .piped, .inherited⟩ world = (.ok pid, after) ∧
      view.Ready after ∧ ¬ view.Known world pid ∧ view.Known after pid ∧
      (∀ p, view.Known world p → view.Known after p) ∧ view.written after pid = some (f stage bytes)
  collect : ∀ pid world bytes, view.Ready world → view.written world pid = some bytes →
    ∃ remains after, sys.collect pid world = (.ok remains, after) ∧ remains.output = bytes

namespace Pipeline

/-- What stages make of bytes, one after the other. -/
def compose (f : SimpleCommand → Bytes → Bytes) (stages : List SimpleCommand) (bytes : Bytes) :
    Bytes :=
  stages.foldl (fun bytes stage => f stage bytes) bytes

theorem compose_append (f : SimpleCommand → Bytes → Bytes) (front back : List SimpleCommand)
    (bytes : Bytes) : compose f (front ++ back) bytes = compose f back (compose f front bytes) :=
  List.foldl_append

theorem isSome_startAnswer?_of_mem (dir : Path) (input : InputFrom)
    (children : List (SimpleCommand × Pid)) :
    ∀ call ∈ startCalls dir input children, call.startAnswer?.isSome = true := by
  induction children generalizing input with
  | nil => simp [startCalls]
  | cons child rest ih => exact List.forall_mem_cons.2 ⟨rfl, ih _⟩

/-- How often what a child writes is handed on while stages are started. -/
theorem countP_startCalls (dir : Path) (input : InputFrom) {stages : List SimpleCommand}
    {pids : List Pid} (h : pids.length = stages.length) (pid : Pid) :
    (startCalls dir input (stages.zip pids)).countP (·.takesOutputOf pid) =
      if pids = [] then 0
      else (if input = .outputOf pid then 1 else 0) + pids.dropLast.count pid := by
  induction pids generalizing input stages with
  | nil => rw [List.zip_nil_right]; rfl
  | cons p ps ih =>
    cases stages with
    | nil => simp at h
    | cons stage rest =>
      rw [List.zip_cons_cons, startCalls, List.countP_cons, ih (.outputOf p) (by simpa using h)]
      cases ps with
      | nil => simp [Call.takesOutputOf]
      | cons q qs => simp [Call.takesOutputOf, List.count_cons]; omega

variable {σ : Type} {sys : System σ} {dir : Path} {stages : List SimpleCommand}
  {f : SimpleCommand → Bytes → Bytes} {view : ChildView σ}

/-- Stages that are functions are all started, and the last child writes what they make together. -/
theorem start_filters (h : sys.Filters dir stages f view) (index : ℕ) {rest : List SimpleCommand}
    (hrest : rest ⊆ stages) {input : InputFrom} {bytes : Bytes} {world : World σ}
    (hready : view.Ready world) (hinput : view.readable world input = some bytes) :
    ∃ pids after, start sys dir index input rest world = ((pids, none), after) ∧
      view.Ready after ∧ pids.length = rest.length ∧ pids.Nodup ∧
      (∀ pid ∈ pids, ¬ view.Known world pid) ∧
      view.readable after (feed input pids) = some (compose f rest bytes) := by
  induction rest generalizing index input bytes world with
  | nil => exact ⟨[], world, rfl, hready, rfl, .nil, by simp, hinput⟩
  | cons stage rest ih =>
    obtain ⟨hstage, hrest⟩ := List.cons_subset.1 hrest
    obtain ⟨pid, begun, hstart, hready, hnew, hknown, hkeeps, hwritten⟩ :=
      h.start stage hstage world input bytes hready hinput
    have hreadable : view.readable begun (.outputOf pid) = some (f stage bytes) := hwritten
    obtain ⟨pids, after, heq, hafter, hlen, hnodup, hfresh, hlast⟩ :=
      ih (index + 1) hrest hready hreadable
    refine ⟨pid :: pids, after, by rw [start, hstart]; simp only [heq], hafter,
      congrArg (· + 1) hlen, ?_, ?_, ?_⟩
    · exact List.nodup_cons.2 ⟨fun hmem => hfresh pid hmem hknown, hnodup⟩
    · exact List.forall_mem_cons.2 ⟨hnew, fun p hp hknown => hfresh p hp (hkeeps p hknown)⟩
    · rw [feed_cons]
      exact hlast

/-- What a pipeline of functions comes to, and that no two of its children are the same. -/
theorem run_filters (h : sys.Filters dir stages f view) {rest : List SimpleCommand}
    (hrest : rest ⊆ stages) (hne : rest ≠ []) {world : World σ} {bytes : Bytes}
    (hready : view.Ready world) (hinput : world.input = .ok bytes) :
    (run sys dir rest world).1 = .ok (Text.trimEnd (Utf8.lossy (compose f rest bytes))) ∧
      (start sys dir 0 .inherited rest world).1.1.Nodup := by
  have hreadable : view.readable world .inherited = some bytes := by
    rw [ChildView.readable, hinput]
    rfl
  obtain ⟨pids, after, heq, hafter, hlen, hnodup, -, hlast⟩ :=
    start_filters h 0 hrest hready hreadable
  cases hpids : pids.getLast? with
  | none =>
    rw [List.getLast?_eq_none_iff.1 hpids] at hlen
    exact absurd (List.length_eq_zero_iff.1 hlen.symm) hne
  | some last =>
    have hwritten : view.written after last = some (compose f rest bytes) := by
      rwa [feed, hpids] at hlast
    obtain ⟨remains, done, hcollect, hbytes⟩ := h.collect last after _ hafter hwritten
    refine ⟨?_, by rwa [heq]⟩
    simp only [run, heq, hpids, hcollect, hbytes]

/-- In a pipeline that has a result, every stage reads from the one before it, and what a child
writes is handed on once. -/
theorem Runs.wiring {children : List Pid} {text : String} {made : List Call}
    (h : Runs dir stages children (.ok text) made) (hne : stages ≠ []) (hnodup : children.Nodup) :
    children.length = stages.length ∧
      made.filter (·.startAnswer?.isSome) = startCalls dir .inherited (stages.zip children) ∧
      ∀ pid ∈ children, made.countP (·.takesOutputOf pid) = 1 := by
  cases h with
  | nothing hnil => exact absurd hnil hne
  | @collected front last remains waits hall hwaits =>
    have hstarts := List.filter_eq_self.2
      (isSome_startAnswer?_of_mem dir .inherited (stages.zip (front ++ [last])))
    have hnone : waits.filter (·.startAnswer?.isSome) = [] :=
      List.filter_eq_nil_iff.2 (forall_of_forall₂ hwaits fun _ _ ⟨_, hcall⟩ =>
        hcall ▸ Bool.false_ne_true)
    refine ⟨hall, ?_, fun pid hpid => ?_⟩
    · rw [List.filter_append, List.filter_cons, hstarts, hnone]
      simp [Call.startAnswer?]
    · have hzero : waits.countP (·.takesOutputOf pid) = 0 :=
        List.countP_eq_zero.2 (forall_of_forall₂ hwaits fun _ _ ⟨_, hcall⟩ =>
          hcall ▸ Bool.false_ne_true)
      have hone := List.count_eq_one_of_mem hnodup hpid
      rw [List.count_append, List.count_singleton] at hone
      rw [List.countP_append, List.countP_cons, countP_startCalls dir _ hall, hzero]
      simpa [Call.takesOutputOf] using hone

/-- A pipeline of functions computes their composition. The shell's own input goes to the first
stage and what a stage writes to the next one, unchanged and to nobody else, each pipe being handed
on once; the result is what the last stage writes, decoded, without the blanks at its end. So the
first stages may as well be run on their own, and the others on the bytes that they have written.
The empty pipeline does nothing. -/
theorem run_composes (h : sys.Filters dir stages f view) {world : World σ} {bytes : Bytes}
    (hready : view.Ready world) (hinput : world.input = .ok bytes) :
    run sys dir [] world = (.ok "", world) ∧
      (stages ≠ [] →
        (run sys dir stages world).1 = .ok (Text.trimEnd (Utf8.lossy (compose f stages bytes))) ∧
        (∃ children : List Pid, children.length = stages.length ∧ children.Nodup ∧
          (calls sys dir stages world).filter (·.startAnswer?.isSome) =
            startCalls dir .inherited (stages.zip children) ∧
          ∀ pid ∈ children, (calls sys dir stages world).countP (·.takesOutputOf pid) = 1) ∧
        ∀ front back, stages = front ++ back → front ≠ [] → back ≠ [] → ∀ world' : World σ,
          view.Ready world' → world'.input = .ok (compose f front bytes) →
          (run sys dir stages world).1 = (run sys dir back world').1) := by
  refine ⟨rfl, fun hne => ?_⟩
  obtain ⟨hresult, hnodup⟩ := run_filters h (List.Subset.refl stages) hne hready hinput
  refine ⟨hresult, ?_, fun front back hsplit _ hback world' hready' hinput' => ?_⟩
  · have hruns := (run_watched sys dir stages world).1
    rw [hresult] at hruns
    obtain ⟨hlen, hwiring⟩ := hruns.wiring hne hnodup
    exact ⟨_, hlen, hnodup, hwiring⟩
  · have hsub : back ⊆ stages := hsplit ▸ List.subset_append_right front back
    obtain ⟨hresult', -⟩ := run_filters h hsub hback hready' hinput'
    rw [hresult, hresult', hsplit, compose_append]

end Pipeline

/-- What can be said of the children in a system of functions. -/
def ByteMachine.view : ChildView ByteMachine where
  Ready _ := True
  Known world pid := pid < world.outside.nextPid
  written world pid := world.outside.pipes.lookup pid

/-- Functions are stages. -/
theorem System.filters_ofFunctions (f : SimpleCommand → Bytes → Bytes) (dir : Path)
    (stages : List SimpleCommand) :
    (System.ofFunctions (some ∘ f)).Filters dir stages f ByteMachine.view where
  start stage _ world input bytes _ hreadable := by
    have hbytes : ByteMachine.inputBytes input world = bytes := by
      cases input with
      | inherited =>
        rw [ChildView.readable] at hreadable
        rw [ByteMachine.inputBytes, hreadable]
        rfl
      | outputOf pid =>
        change world.outside.pipes.lookup pid = some bytes at hreadable
        rw [ByteMachine.inputBytes, hreadable]
        rfl
    refine ⟨world.outside.nextPid, _, rfl, trivial, Int.lt_irrefl _, ?_, ?_, ?_⟩
    · exact Int.lt_succ _
    · exact fun p hp => Int.lt_trans hp (Int.lt_succ _)
    · rw [← hbytes]
      exact List.lookup_cons_self
  collect pid world bytes _ hwritten := by
    refine ⟨_, _, rfl, ?_⟩
    change world.outside.pipes.lookup pid = some bytes at hwritten
    change (world.outside.pipes.lookup pid).getD [] = bytes
    rw [hwritten]
    rfl

/-- Bytes that are no text go through a pipeline unchanged, and so do blanks. -/
theorem Pipeline.run_composes_of_reverse :
    let f : SimpleCommand → Bytes → Bytes := fun cmd bytes =>
      if cmd.program = "rev" then bytes.reverse else bytes.drop 1
    let sys := System.ofFunctions (some ∘ f)
    let stages : List SimpleCommand := [⟨"rev", []⟩, ⟨"rest", []⟩]
    let world := World.reading [98, 10, 97, 32, 255]
    f ⟨"rev", []⟩ [98, 10, 97, 32, 255] = [255, 32, 97, 10, 98] ∧
      (run sys "/" stages world).1 = .ok " a\nb" ∧
      (run sys "/" [⟨"rest", []⟩] (.reading [255, 32, 97, 10, 98])).1 = .ok " a\nb" ∧
      ∃ pid pid', (calls sys "/" stages world).filter (·.startAnswer?.isSome) =
        [.start ⟨"rev", []⟩ "/" ⟨.inherited, .piped, .inherited⟩ (.ok pid),
          .start ⟨"rest", []⟩ "/" ⟨.outputOf pid, .piped, .inherited⟩ (.ok pid')] := by
  intro f sys stages world
  have hready : ByteMachine.view.Ready world := trivial
  obtain ⟨-, hrun⟩ := run_composes (System.filters_ofFunctions f "/" stages) hready rfl
  obtain ⟨hresult, ⟨children, hlen, -, hwired, -⟩, hsplit⟩ := hrun (by decide)
  have htext : Text.trimEnd (Utf8.lossy (compose f stages [98, 10, 97, 32, 255])) = " a\nb" := by
    decide +kernel
  rw [htext] at hresult
  have hback := hsplit [⟨"rev", []⟩] [⟨"rest", []⟩] rfl (by decide) (by decide)
    (.reading [255, 32, 97, 10, 98]) trivial rfl
  obtain ⟨pid, pid', rfl⟩ := List.length_eq_two.1 hlen
  exact ⟨rfl, hresult, hback.symm.trans hresult, pid, pid', hwired⟩

end LineShell
