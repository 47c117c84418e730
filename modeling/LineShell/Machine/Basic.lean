import LineShell.Machine.Child

/-!
# A machine in memory

A system whose files, clock and programs are values. Programs take no time except where they sleep,
and the clock goes on only where the shell waits.
-/
namespace LineShell

/-- The part of a machine that is not files and streams. -/
structure Machine where
  /-- Milliseconds since the machine was started. -/
  clock : Nat
  nextPid : Pid
  children : List Machine.Child
  /-- What programs still do that nobody waits for. -/
  orphans : List Machine.Event

namespace Machine

def fresh : Machine := ⟨0, 4100, [], []⟩

/-- Does what a program does to the world. What goes to no channel of the shell is lost. -/
def Effect.apply (effect : Effect) (world : World Machine) : World Machine :=
  match effect with
  | .change f => { world with files := f world.files }
  | .send channel flow =>
    if channel = outputChannel then { world with output := world.output ++ flow.bytes } else world

/-- Makes the programs do all that is due. -/
def settleDue (world : World Machine) : World Machine :=
  let now := world.outside.clock
  let all := world.outside.orphans ++ world.outside.children.flatMap (·.pending)
  let isLate := fun (event : Event) => now < event.time
  let children := world.outside.children.map fun c =>
    { c with pending := c.pending.filter isLate }
  let orphans := world.outside.orphans.filter isLate
  let due := inOrder (all.filter (!isLate ·))
  let world := due.foldl (fun world event => event.effect.apply world) world
  { world with outside := { world.outside with clock := now, children, orphans } }

/-- Moves the clock on to a time unless it is past it. -/
def advance (time : Nat) (world : World Machine) : World Machine :=
  settleDue { world with
    outside := { world.outside with clock := max world.outside.clock time } }

theorem le_clock_advance (time : Nat) (world : World Machine) :
    time ≤ (advance time world).outside.clock ∧
      world.outside.clock ≤ (advance time world).outside.clock := by
  simp only [advance, settleDue]
  exact ⟨Nat.le_max_right _ _, Nat.le_max_left _ _⟩

def child? (world : World Machine) (pid : Pid) : Option Child :=
  world.outside.children.find? (·.pid == pid)

def withChildren (world : World Machine) (f : List Child → List Child) : World Machine :=
  { world with outside := { world.outside with children := f world.outside.children } }

/-- Why there is no child to wait for. -/
def noChild : IoError := .os ⟨10⟩

/-- Waits for a child, and until its streams are closed if they are collected. What it still does
after it was waited for goes on as that of a child that has ended. -/
def reap (pid : Pid) (collected : Bool) (world : World Machine) :
    Except IoError Child × World Machine :=
  match child? world pid with
  | none => (.error noChild, world)
  | some child =>
    let world := advance (if collected then max child.ends child.closes else child.ends) world
    (.ok child, { world with
      outside := { world.outside with
        children := world.outside.children.filter (·.pid != pid)
        orphans := world.outside.orphans ++
          (world.outside.children.filter (·.pid == pid)).flatMap (·.pending) } })

/-- What a child reads, and when that is complete. -/
def inputFor (input : InputFrom) (world : World Machine) : Flow × Nat :=
  match input with
  | .inherited => (.ofBytes ((world.input.toOption).getD []), 0)
  | .outputOf pid =>
    match child? world pid with
    | some child => (child.output, child.closes)
    | none => (.empty, 0)

def startProgram (cmd : SimpleCommand) (dir : Path) (streams : Streams) (world : World Machine) :
    Except IoError Pid × World Machine :=
  let words := cmd.program :: cmd.args
  if words.any (·.contains '\x00') then (.error .nulInData, world)
  else
    match world.files.canonical dir with
    | .error e => (.error e, world)
    | .ok cwd =>
      if !world.files.isDir cwd then (.error (.os .notDirectory), world)
      else
        match findProgram world.files cwd world.env none words with
        | .error e => (.error (.os e), world)
        | .ok found =>
          let pid := world.outside.nextPid
          let (input, ready) := inputFor streams.input world
          let begun := world.outside.clock
          let run : Run := {
            files := world.files
            env := world.env
            cwd
            pid
            name := processName found.path
            input
            inputReady := ready - begun
            inputSize := none
            output := .channel outputChannel
            errors := .channel errorChannel
            others := []
            elapsed := 0
            done := []
            pending := []
            lingers := 0
            answers := []
            awakenings := []
            nextPid := pid + 1
            nextChannel := errorChannel + 1
            killedBy := none }
          let (code, run) := Script.program Script.maxDepth found.program found.words run
          let child := Child.ofRun begun (streams.output = .piped) code run
          let input :=
            if streams.input = .inherited then world.input.map fun _ => run.input.bytes
            else world.input
          let outside := { world.outside with
            nextPid := run.nextPid + 7
            children := world.outside.children ++ [child] }
          (.ok pid, settleDue { world with input, outside })

def statText (pid : Pid) (name state : String) : String :=
  s!"{pid} ({name}) {state} 1 1 1 0 -1 4194304 0 0 0 0 0 0 0 0 20 0 1 0 0 0 0"

def shellPid : Pid := 4093

def running (world : World Machine) : List Child :=
  world.outside.children.filter (·.isRunning world.outside.clock)

/-- Sends a signal to a child that runs. -/
def signalChild (pid : Pid) (signal : Option Signal) (world : World Machine) :
    Except Errno Unit × World Machine :=
  match (running world).find? (·.pid == pid) with
  | none => (.error .noProcess, world)
  | some _ =>
    let now := world.outside.clock
    let send (child : Child) : Child :=
      if child.pid != pid then child
      else
        match signal with
        | none => child
        | some .terminate => child.request now world.files
        | some .kill => child.stop now
    (.ok (), withChildren world (·.map send))

def memoryText : String :=
  "MemTotal:       16384000 kB\nMemFree:         4096000 kB\nMemAvailable:    8192000 kB\n"

/-- The machine as a system for a shell. -/
def system : System Machine where
  start := startProgram
  wait pid world :=
    let (result, world) := reap pid false world
    (result.map fun _ => (), world)
  collect pid world :=
    let (result, world) := reap pid true world
    (result.map fun child => ⟨child.code, child.output.bytes, child.errors⟩, world)
  kill pid world :=
    let now := world.outside.clock
    let world := withChildren world (·.map fun c => if c.pid == pid then c.stop now else c)
    let (result, world) := reap pid false world
    (result.map fun _ => (), world)
  signal := signalChild
  statLine pid world :=
    if pid = shellPid then (some (statText pid "line-shell" "R"), world)
    else
      (((running world).find? (·.pid == pid)).map fun c => statText pid c.name "S", world)
  processNames world :=
    (.ok ((shellPid :: (running world).map (·.pid)).map toString ++ ["meminfo", "self", "stat"]),
      world)
  ownPid := shellPid
  now world := world.outside.clock
  pause milliseconds world := advance (world.outside.clock + milliseconds) world
  memoryTable _ := .ok memoryText
  disk _ := .ok ⟨250000000000, 100000000000, 150000000000⟩
  localTime _ := ⟨2024, 1, 1, 0, 0, 0⟩
  now_signal pid signal world := by
    simp only [signalChild]
    split <;> simp [withChildren]
  now_statLine pid world := by
    split <;> simp
  now_pause n world := by
    exact (le_clock_advance _ world).1

end Machine
end LineShell
