import LineShell.Builtin.Processes
import LineShell.Proofs.Ending
import LineShell.Proofs.Idle
import Mathlib.Data.List.Nodup

/-!
# The process that is killed

Among the processes that go by a name, the shell itself left out, the one of the least id is killed,
in whatever order the directory of processes lists them. No other process is sent a signal, and none
is if there is no such process.
-/
namespace LineShell

/-! ## The least of a list -/

theorem occursIn_iff_isInfix {needle s : List Char} : occursIn needle s = true ↔ needle <:+: s := by
  induction s with
  | nil => simp [occursIn]
  | cons c cs ih => simp [occursIn, ih, List.infix_cons_iff]

/-- Whether the text occurs in the name of the process, both in lower case. -/
def ProcessInfo.Matches (needle : String) (p : ProcessInfo) : Prop :=
  Text.lower needle.toList <:+: Text.lower p.name.toList

theorem ProcessInfo.goesBy_iff {needle : String} {p : ProcessInfo} :
    p.goesBy needle = true ↔ p.Matches needle :=
  occursIn_iff_isInfix

/-- What the directory of processes lists: its names, each with the status line that is read if the
name is that of a process, unless the process has gone by then. -/
abbrev ProcessTable := List (String × Option String)

namespace ProcessTable

def process? (entry : String × Option String) : Option ProcessInfo :=
  (pidOfName? entry.1).bind fun _ => entry.2.bind ProcessInfo.ofStat?

/-- The processes of a table, in its order. -/
def processes (table : ProcessTable) : List ProcessInfo :=
  table.filterMap process?

def line? (table : ProcessTable) (pid : Pid) : Option String :=
  (table.find? fun entry => pidOfName? entry.1 == some pid).bind (·.2)

/-- The process of the least id that goes by a name and is not the shell itself. -/
structure IsVictim (table : ProcessTable) (own : Pid) (needle : String) (p : ProcessInfo) :
    Prop where
  mem : p ∈ table.processes
  ne_own : p.pid ≠ own
  named : p.Matches needle
  least : ∀ q ∈ table.processes, q.pid ≠ own → q.Matches needle → p.pid ≤ q.pid

/-- The first of the processes that goes by a name once they are sorted. -/
def victim? (own : Pid) (needle : String) (table : ProcessTable) : Option ProcessInfo :=
  (table.processes.mergeSort fun a b => decide (a.pid ≤ b.pid)).find? fun p =>
    p.pid != own && p.goesBy needle

variable {table table' : ProcessTable} {own : Pid} {needle : String} {p : ProcessInfo}

theorem victim?_eq_none_iff : table.victim? own needle = none ↔
    ∀ p ∈ table.processes, p.pid ≠ own → ¬ p.Matches needle := by
  rw [victim?, List.find?_eq_none]
  simp [ProcessInfo.goesBy_iff]

theorem isVictim_of_victim? (h : table.victim? own needle = some p) :
    table.IsVictim own needle p := by
  obtain ⟨htest, before, behind, hsorted, hbefore⟩ := List.find?_eq_some_iff_append.1 h
  have hperm := List.mergeSort_perm table.processes fun a b => decide (a.pid ≤ b.pid)
  have horder : (before ++ p :: behind).Pairwise fun a b => decide (a.pid ≤ b.pid) := by
    rw [← hsorted]
    exact List.pairwise_mergeSort (by intro a b c; simp; omega) (by intro a b; simp; omega) _
  rw [hsorted] at hperm
  rw [Bool.and_eq_true, bne_iff_ne, ProcessInfo.goesBy_iff] at htest
  refine ⟨hperm.subset (by simp), htest.1, htest.2, fun q hq hown hnamed => ?_⟩
  obtain hq | hq := List.mem_append.1 (hperm.symm.subset hq)
  · -- nothing before the first that passes the test passes it
    have hfails := hbefore q hq
    simp [hown, ProcessInfo.goesBy_iff.2 hnamed] at hfails
  · obtain rfl | hq := List.mem_cons.1 hq
    · exact Int.le_refl _
    · exact of_decide_eq_true ((List.pairwise_cons.1 (List.pairwise_append.1 horder).2.1).1 q hq)

theorem IsVictim.eq {q : ProcessInfo} (hdistinct : (table.processes.map (·.pid)).Nodup)
    (h : table.IsVictim own needle p) (hq : table.IsVictim own needle q) : p = q := by
  have hpid : p.pid = q.pid :=
    Int.le_antisymm (h.least q hq.mem hq.ne_own hq.named) (hq.least p h.mem h.ne_own h.named)
  exact List.inj_on_of_nodup_map hdistinct h.mem hq.mem hpid

theorem victim?_eq_some_iff (hdistinct : (table.processes.map (·.pid)).Nodup) :
    table.victim? own needle = some p ↔ table.IsVictim own needle p := by
  refine ⟨isVictim_of_victim?, fun h => ?_⟩
  cases hfound : table.victim? own needle with
  | none => exact absurd h.named (victim?_eq_none_iff.1 hfound p h.mem h.ne_own)
  | some q => rw [(isVictim_of_victim? hfound).eq hdistinct h]

theorem IsVictim.of_perm (h : table.IsVictim own needle p) (hperm : table'.Perm table) :
    table'.IsVictim own needle p := by
  have hprocesses : table'.processes.Perm table.processes := hperm.filterMap _
  exact ⟨hprocesses.symm.subset h.mem, h.ne_own, h.named,
    fun q hq => h.least q (hprocesses.subset hq)⟩

/-- The order of the table does not matter. -/
theorem victim?_eq_of_perm (hdistinct : (table.processes.map (·.pid)).Nodup)
    (hperm : table'.Perm table) : table'.victim? own needle = table.victim? own needle := by
  have hdistinct' : (table'.processes.map (·.pid)).Nodup :=
    ((hperm.filterMap _).map _).nodup_iff.2 hdistinct
  ext p
  rw [victim?_eq_some_iff hdistinct', victim?_eq_some_iff hdistinct]
  exact ⟨fun h => h.of_perm hperm.symm, fun h => h.of_perm hperm⟩

end ProcessTable

/-! ## Reading the table -/

namespace System
variable {σ : Type} (sys : System σ)

/-- The status lines of processes are read in the order of a table, which says what is read. -/
inductive Reads : ProcessTable → World σ → World σ → Prop
  | nil {world : World σ} : Reads [] world world
  | other {name : String} {line : Option String} {table : ProcessTable} {world after : World σ} :
      pidOfName? name = none → Reads table world after → Reads ((name, line) :: table) world after
  | process {name : String} {pid : Pid} {table : ProcessTable} {world after : World σ} :
      pidOfName? name = some pid → Reads table (sys.statLine pid world).2 after →
      Reads ((name, (sys.statLine pid world).1) :: table) world after

/-- The directory of processes is read, and this is what it shows. -/
def Shows (table : ProcessTable) (world after : World σ) : Prop :=
  ∃ listed, sys.processNames world = (.ok (table.map (·.1)), listed) ∧ sys.Reads table listed after

variable {sys} {table : ProcessTable} {world after : World σ}

theorem Reads.statAll_eq (h : sys.Reads table world after) :
    sys.statAll ((table.map (·.1)).filterMap pidOfName?) world = (table.processes, after) := by
  induction h with
  | nil => rfl
  | other hname _ ih =>
    simpa [hname, ProcessTable.processes, ProcessTable.process?] using ih
  | @process name pid table world after hname _ ih =>
    simp only [List.map_cons, List.filterMap_cons, hname, statAll, stat, ih]
    simp only [ProcessTable.processes, List.filterMap_cons, ProcessTable.process?, hname,
      Option.bind_some]
    cases (sys.statLine pid world).1.bind ProcessInfo.ofStat? <;> rfl

theorem Shows.findByName_eq (h : sys.Shows table world after) (needle : String) :
    sys.findByName needle world = (.ok (table.victim? sys.ownPid needle), after) := by
  obtain ⟨listed, hnames, hreads⟩ := h
  rw [findByName, processes, hnames]
  simp only [hreads.statAll_eq]
  rfl

/-! ## The signals of kill -/

variable (sys) (world) in
theorem statAll_timed (pids : List Pid) (record : List Probe) :
    ∃ reads, sys.timed.statAll pids (world.timed record) =
        ((sys.statAll pids world).1, (sys.statAll pids world).2.timed (record ++ reads)) ∧
      reads.filterMap Probe.target? = [] := by
  induction pids generalizing world record with
  | nil => exact ⟨[], by simp [statAll], rfl⟩
  | cons pid pids ih =>
    obtain ⟨reads, hreads, htargets⟩ := ih (sys.stat pid world).2
      (record ++ [.status pid (sys.statusReply pid world)])
    refine ⟨.status pid (sys.statusReply pid world) :: reads, ?_, htargets⟩
    simp only [statAll, stat_timed, hreads]
    simp

/-- No signal is sent to find a process. -/
theorem findByName_timed (sys : System σ) (needle : String) (world : World σ)
    (record : List Probe) :
    ∃ reads, sys.timed.findByName needle (world.timed record) =
        ((sys.findByName needle world).1,
          (sys.findByName needle world).2.timed (record ++ reads)) ∧
      reads.filterMap Probe.target? = [] := by
  simp only [findByName, processes, processNames_timed, ownPid_timed]
  obtain ⟨e | names, listed⟩ := sys.processNames world
  · exact ⟨[], by simp, rfl⟩
  · obtain ⟨reads, hreads, htargets⟩ :=
      sys.statAll_timed listed (names.filterMap pidOfName?) record
    refine ⟨reads, ?_, htargets⟩
    simp only [hreads]

/-- Whoever ends a process sends signals to it alone. -/
theorem mem_targets_endingProbes {pid target : Pid} {asked : Reply (Except Errno Unit)}
    {looks : List Look} {killed : Option (Reply (Except Errno Unit))} :
    target ∈ (endingProbes pid asked looks killed).filterMap Probe.target? ↔ target = pid := by
  constructor
  · intro h
    obtain ⟨probe, hprobe, htarget⟩ := List.mem_filterMap.1 h
    simp only [endingProbes, Look.probes, List.mem_append, List.mem_cons, List.mem_flatMap,
      List.mem_map] at hprobe
    obtain (rfl | ⟨look, -, rfl | ⟨status, -, rfl⟩⟩) | ⟨kill, -, rfl⟩ := hprobe <;>
      simp_all
  · rintro rfl
    simp [endingProbes]

end System

namespace Builtin
variable {σ : Type} {sys : System σ} {needle : String} {world found : World σ} {palette : Palette}
  {timeout : ℕ} {others : List String}

theorem runKill_of_none (h : sys.findByName needle world = (.ok none, found)) :
    runKill sys palette timeout (needle :: others) world =
      (.error (.noMatchingProcess needle), found) := by
  simp only [runKill, required, h]

def killReport (palette : Palette) (pid : Pid) (result : Except ShellError Termination) : Report :=
  result.map fun how => .text (killText palette pid how)

theorem runKill_of_some {p : ProcessInfo}
    (h : sys.findByName needle world = (.ok (some p), found)) :
    runKill sys palette timeout (needle :: others) world =
      (killReport palette p.pid (sys.terminate p.pid timeout found).1,
        (sys.terminate p.pid timeout found).2) := by
  simp only [runKill, required, h]
  obtain ⟨e | how, ended⟩ := sys.terminate p.pid timeout found <;> rfl

end Builtin

namespace System
open Builtin (runKill)
variable {σ : Type} {sys : System σ} {table : ProcessTable} {world after : World σ}

/-- The processes that a kill of a name sends signals to, in order. -/
def signalled (sys : System σ) (palette : Palette) (timeout : ℕ) (args : List String)
    (world : World σ) : List Pid :=
  (runKill sys.timed palette timeout args (world.timed [])).2.outside.record.filterMap Probe.target?

section
variable (palette : Palette) (timeout : ℕ) {needle : String} (others : List String)

theorem signalled_of_none (h : sys.findByName needle world = (.ok none, after)) :
    sys.signalled palette timeout (needle :: others) world = [] := by
  obtain ⟨reads, hreads, htargets⟩ := sys.findByName_timed needle world []
  rw [h] at hreads
  rw [signalled, Builtin.runKill_of_none hreads]
  exact htargets

/-- Nothing but the process that is found is sent a signal, and it is sent one. -/
theorem mem_signalled {p : ProcessInfo} (h : sys.findByName needle world = (.ok (some p), after))
    (target : Pid) :
    target ∈ sys.signalled palette timeout (needle :: others) world ↔ target = p.pid := by
  obtain ⟨reads, hreads, htargets⟩ := sys.findByName_timed needle world []
  rw [h] at hreads
  obtain ⟨asked, looks, killed, hended, -⟩ := sys.terminate_timed p.pid timeout after ([] ++ reads)
  rw [signalled, Builtin.runKill_of_some hreads, hended]
  show target ∈ (([] ++ reads) ++ endingProbes p.pid asked looks killed).filterMap Probe.target? ↔ _
  rw [List.filterMap_append, List.nil_append, htargets, List.nil_append, mem_targets_endingProbes]

end

/-- Of the processes that go by a name, the one of the least id is found and killed, whatever the
order in which they are listed, and no other one is sent a signal, least of all the shell. If there
is none, that is reported and no signal is sent. -/
theorem kill_takes_victim (hshows : sys.Shows table world after)
    (hdistinct : (table.processes.map (·.pid)).Nodup) (needle : String) :
    ∃ found, sys.findByName needle world = (.ok found, after) ∧
      (∀ p, found = some p ↔ table.IsVictim sys.ownPid needle p) ∧
      (found = none ↔ ∀ p ∈ table.processes, p.pid ≠ sys.ownPid → ¬ p.Matches needle) ∧
      (∀ {τ : Type} (sys' : System τ) (world' after' : World τ) (table' : ProcessTable),
        sys'.Shows table' world' after' → sys'.ownPid = sys.ownPid → table'.Perm table →
        sys'.findByName needle world' = (.ok found, after')) ∧
      ∀ (palette : Palette) (timeout : ℕ) (others : List String),
        let signals := sys.signalled palette timeout (needle :: others) world
        (∀ p, found = some p → p.pid ∈ signals ∧ ∀ pid ∈ signals, pid = p.pid) ∧
        (found = none → signals = [] ∧
          (runKill sys palette timeout (needle :: others) world).1 =
            .error (.noMatchingProcess needle)) ∧
        sys.ownPid ∉ signals := by
  have hfind := hshows.findByName_eq needle
  refine ⟨table.victim? sys.ownPid needle, hfind,
    fun p => ProcessTable.victim?_eq_some_iff hdistinct, ProcessTable.victim?_eq_none_iff, ?_, ?_⟩
  · intro τ sys' world' after' table' hshows' hown hperm
    rw [hshows'.findByName_eq, hown, ProcessTable.victim?_eq_of_perm hdistinct hperm]
  · intro palette timeout others
    cases hfound : table.victim? sys.ownPid needle with
    | none =>
      rw [hfound] at hfind
      have hsignals := signalled_of_none palette timeout others hfind
      simp [hsignals, Builtin.runKill_of_none hfind]
    | some p =>
      rw [hfound] at hfind
      have hsignals := mem_signalled palette timeout others hfind
      have hown := (ProcessTable.isVictim_of_victim? hfound).ne_own
      simp [hsignals, hown.symm]

/-- A system whose processes are those of a table, and in which no time passes. -/
def ofTable (table : ProcessTable) : System ℕ :=
  { idle with
    processNames := fun world => (.ok (table.map (·.1)), world)
    statLine := fun pid world => (table.line? pid, world)
    now_statLine := fun _ _ => Nat.le_refl _ }

theorem reads_ofTable {entries : ProcessTable} {world : World ℕ}
    (h : ∀ entry ∈ entries, ∀ pid ∈ pidOfName? entry.1, table.line? pid = entry.2) :
    (ofTable table).Reads entries world world := by
  induction entries with
  | nil => exact .nil
  | cons entry entries ih =>
    obtain ⟨hentry, hentries⟩ := List.forall_mem_cons.1 h
    obtain ⟨name, line⟩ := entry
    cases hname : pidOfName? name with
    | none => exact .other hname (ih hentries)
    | some pid =>
      obtain rfl := hentry pid hname
      exact .process hname (ih hentries)

/-- The shell goes by the name too, and so does a process that has gone away. -/
def crowd : ProcessTable :=
  [("31", some "31 (SLEEP) S"), ("self", none), ("1", some "1 (sleepy shell) R"), ("7", none),
    ("12", some "12 (no (sleep)) S"), ("40", some "40 (cat) S")]

theorem kill_takes_victim_crowd :
    (ofTable crowd).Shows crowd (Shell.startIn ⟨[]⟩).world (Shell.startIn ⟨[]⟩).world ∧
    (crowd.processes.map (·.pid)).Nodup ∧
    12 ∈ (ofTable crowd).signalled ⟨false⟩ 0 ["Sleep"] (Shell.startIn ⟨[]⟩).world ∧
    ∀ pid ∈ (ofTable crowd).signalled ⟨false⟩ 0 ["Sleep"] (Shell.startIn ⟨[]⟩).world, pid = 12 := by
  have hprocesses : crowd.processes =
      [⟨31, "SLEEP", .sleeping⟩, ⟨1, "sleepy shell", .running⟩, ⟨12, "no (sleep)", .sleeping⟩,
        ⟨40, "cat", .sleeping⟩] := by
    decide
  have hdistinct : (crowd.processes.map (·.pid)).Nodup := by
    rw [hprocesses]
    decide
  have hshows : (ofTable crowd).Shows crowd (Shell.startIn ⟨[]⟩).world (Shell.startIn ⟨[]⟩).world :=
    ⟨_, rfl, reads_ofTable (by decide)⟩
  have hvictim : crowd.IsVictim (ofTable crowd).ownPid "Sleep" ⟨12, "no (sleep)", .sleeping⟩ := by
    refine ⟨?_, by decide, ProcessInfo.goesBy_iff.1 (by decide +kernel), ?_⟩
    · simp [hprocesses]
    · have hcat : ¬ (⟨40, "cat", .sleeping⟩ : ProcessInfo).Matches "Sleep" := by
        rw [← ProcessInfo.goesBy_iff]
        decide +kernel
      simp [hprocesses, hcat, ofTable, idle]
  obtain ⟨found, -, hfound, -, -, hkill⟩ := kill_takes_victim hshows hdistinct "Sleep"
  exact ⟨hshows, hdistinct, (hkill ⟨false⟩ 0 []).1 _ ((hfound _).2 hvictim)⟩

end System
end LineShell
