import LineShell.Proofs.Idle

/-!
# A system of functions

A system in which a program is a function: it reads its standard input to the end, and writes what
the function makes of that. A child has written everything as soon as it is started, and what was
written to a pipe waits there until it is taken.
-/
namespace LineShell

/-- What a system of functions keeps beside files and streams. -/
structure ByteMachine where
  nextPid : ℕ
  /-- What waits in the pipes of children. -/
  pipes : List (Pid × Bytes)
  clock : ℕ

namespace ByteMachine

/-- What a child reads. -/
def inputBytes (input : InputFrom) (world : World ByteMachine) : Bytes :=
  match input with
  | .inherited => world.input.toOption.getD []
  | .outputOf pid => (world.outside.pipes.lookup pid).getD []

/-- The world without what a child reads. -/
def drain (input : InputFrom) (world : World ByteMachine) : World ByteMachine :=
  match input with
  | .inherited => { world with input := world.input.map fun _ => [] }
  | .outputOf pid =>
    { world with
      outside := { world.outside with pipes := world.outside.pipes.filter (·.1 ≠ pid) } }

/-- The world with what a child writes. -/
def write (output : OutputTo) (pid : Pid) (bytes : Bytes) (world : World ByteMachine) :
    World ByteMachine :=
  match output with
  | .inherited => { world with output := world.output ++ bytes }
  | .piped =>
    { world with outside := { world.outside with pipes := (pid, bytes) :: world.outside.pipes } }

/-- Starts a child that runs a function. -/
def spawn (f : Bytes → Bytes) (streams : Streams) (world : World ByteMachine) :
    Except IoError Pid × World ByteMachine :=
  let pid : Pid := world.outside.nextPid
  let after := write streams.output pid (f (inputBytes streams.input world))
    (drain streams.input world)
  (.ok pid, { after with outside := { after.outside with nextPid := world.outside.nextPid + 1 } })

/-- The world without what waits in the pipe of a child. -/
def forget (pid : Pid) (world : World ByteMachine) : World ByteMachine :=
  drain (.outputOf pid) world

end ByteMachine

open ByteMachine in
/-- The system whose programs are the given functions. -/
def System.ofFunctions (meaning : SimpleCommand → Option (Bytes → Bytes)) :
    System ByteMachine where
  start cmd _ streams world :=
    match meaning cmd with
    | none => (.error (.os .noEntry), world)
    | some f => spawn f streams world
  wait pid world := (.ok (), forget pid world)
  collect pid world := (.ok ⟨some 0, inputBytes (.outputOf pid) world, []⟩, forget pid world)
  kill pid world := (.ok (), forget pid world)
  signal _ _ world := (.error .noProcess, world)
  statLine _ world := (none, world)
  processNames world := (.ok [], world)
  ownPid := 1
  now world := world.outside.clock
  pause n world := { world with outside := { world.outside with clock := world.outside.clock + n } }
  memoryTable _ := .error (.os .noEntry)
  disk _ := .error .noEntry
  localTime _ := ⟨1970, 1, 1, 0, 0, 0⟩
  now_signal _ _ _ := Nat.le_refl _
  now_statLine _ _ := Nat.le_refl _
  now_pause _ _ := Nat.le_refl _

/-- A world without files in which nothing was started, and bytes are to be read. -/
def World.reading (bytes : Bytes) : World ByteMachine :=
  ⟨⟨[]⟩, [], .ok bytes, [], ⟨2, [], 0⟩⟩

end LineShell
