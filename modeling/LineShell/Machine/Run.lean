import LineShell.Environment.Basic
import LineShell.FileSystem.Change
import LineShell.Machine.Flow
import LineShell.System

/-!
# Running programs

The state of a program while it runs: the files as it sees them, its streams, and a record of what
it did and when. Time is counted in milliseconds from the start of the program, and passes only
while it sleeps or waits. What programs in the background do later is known in advance, and happens
when the time comes.
-/
namespace LineShell.Machine

/-- What a program does to the world around it. -/
inductive Effect where
  | change (f : FileSystem → FileSystem)
  /-- Writes into a channel. -/
  | send (channel : Nat) (flow : Flow)

/-- Something that a process does at some time. -/
structure Event where
  time : Nat
  pid : Pid
  effect : Effect

/-- The channel that the standard output leads to when a program is started. -/
def outputChannel : Nat := 0

/-- The channel that the standard error leads to when a program is started. -/
def errorChannel : Nat := 1

/-- Where a stream leads to. -/
inductive Sink where
  | channel (n : Nat)
  | file (path : Path)
  | nothing
  deriving Repr, DecidableEq

inductive Stream where
  | sink (sink : Sink)
  | source (flow : Flow)
  deriving Repr, DecidableEq

/-- What a program does when it is asked to end. -/
inductive Answer where
  /-- It ends. -/
  | obey
  | ignore
  /-- It waits until it does not sleep, and does something; the flag tells whether it ends then. -/
  | act (f : FileSystem → List Effect × Bool)

structure Run where
  files : FileSystem
  env : Environment
  cwd : Path
  pid : Pid
  /-- The name under which the process is known. -/
  name : String
  input : Flow
  /-- When the input is complete. -/
  inputReady : Nat
  /-- The size of the file that the input comes from, if it comes from one. -/
  inputSize : Option Nat
  output : Sink
  errors : Sink
  others : List (Nat × Stream)
  elapsed : Nat
  /-- What was done, the last first. -/
  done : List Event
  /-- What programs in the background will do. -/
  pending : List Event
  /-- When the last program in the background ends. -/
  lingers : Nat
  /-- How it answers requests to end, and since when, the last first. -/
  answers : List (Nat × Answer)
  /-- When it woke up, the last time first. -/
  awakenings : List Nat
  /-- The process id of the next program that is started. -/
  nextPid : Pid
  /-- The next channel that is not in use. -/
  nextChannel : Nat
  /-- The signal that ended it, if one did. -/
  killedBy : Option Nat

def Effect.onFiles (effect : Effect) (fs : FileSystem) : FileSystem :=
  match effect with
  | .change f => f fs
  | .send .. => fs

def inOrder (events : List Event) : List Event :=
  events.mergeSort fun a b => decide (a.time ≤ b.time)

/-- What events, in order, send into a channel. -/
def sentTo (channel : Nat) (events : List Event) : Flow :=
  events.foldl (fun all event =>
    match event.effect with
    | .send c flow => if c = channel then all.append flow else all
    | .change _ => all) .empty

namespace Event

/-- Whether an event sends something into a channel. -/
def isSendTo (channel : Nat) (event : Event) : Bool :=
  match event.effect with
  | .send c _ => c == channel
  | .change _ => false

end Event

namespace Run

/-- Records that something is done now. -/
def record (run : Run) (effect : Effect) : Run :=
  { run with done := ⟨run.elapsed, run.pid, effect⟩ :: run.done }

def change (run : Run) (f : FileSystem → FileSystem) : Run :=
  { run with files := f run.files }.record (.change f)

/-- Does something that may fail to the files. -/
def attempt (run : Run) (f : FileSystem → FileSystem.Change Unit) : Except IoError Unit × Run :=
  match f run.files with
  | (.ok (), _) => (.ok (), run.change fun fs => (f fs).2)
  | (.error e, _) => (.error e, run)

def writeTo (run : Run) (sink : Sink) (bytes : Bytes) : Run :=
  if bytes.isEmpty then run
  else
    match sink with
    | .channel n => run.record (.send n (.ofBytes bytes))
    | .file path => run.change fun fs => (fs.update path (· ++ bytes)).2
    | .nothing => run

def write (run : Run) (bytes : Bytes) : Run :=
  run.writeTo run.output bytes

def put (run : Run) (text : String) : Run :=
  run.write (Raw.encode text)

/-- Writes a flow to the standard output. Only a channel can take one that never ends. -/
def pour (run : Run) (flow : Flow) : Run :=
  match run.output with
  | .channel n => if flow.endless then run.record (.send n flow) else run.write flow.bytes
  | _ => run.write flow.bytes

def complain (run : Run) (text : String) : Run :=
  run.writeTo run.errors (Raw.encode (text ++ "\n"))

/-- Lets time pass up to a moment, unless that is past. What is due in the background happens. -/
def waitUntil (run : Run) (time : Nat) : Run :=
  let (due, later) := run.pending.partition (·.time ≤ time)
  let due := inOrder due
  { run with
    files := due.foldl (fun fs event => event.effect.onFiles fs) run.files
    done := due.reverse ++ run.done
    pending := later
    elapsed := max run.elapsed time }

def sleep (run : Run) (milliseconds : Nat) : Run :=
  let run := run.waitUntil (run.elapsed + milliseconds)
  { run with awakenings := run.elapsed :: run.awakenings }

/-- Takes all of the input, which has to be complete for that. -/
def takeInput (run : Run) : Flow × Run :=
  (run.input, { run.waitUntil run.inputReady with input := .empty })

def takeLines (run : Run) (count : Nat) : Bytes × Run :=
  let (bytes, input) := run.input.splitAtLine count
  (bytes, { run.waitUntil run.inputReady with input })

/-- The place of a path. An empty one has none. -/
def resolve (run : Run) (path : String) : Path :=
  if path = "" then [] else Raw.path run.cwd path

def read (run : Run) (path : String) : Except IoError Bytes :=
  run.files.read (run.resolve path)

def openChannel (run : Run) : Nat × Run :=
  (run.nextChannel, { run with nextChannel := run.nextChannel + 1 })

/-- Closes a channel: gives what was sent into it, and what still will be. -/
def closeChannel (run : Run) (channel : Nat) : Flow × Run :=
  let all := inOrder (run.done.reverse ++ run.pending)
  let keep := fun (event : Event) => !event.isSendTo channel
  (sentTo channel all, { run with done := run.done.filter keep, pending := run.pending.filter keep })

/-- The run of a program that began in `outer` with nothing done, ended at a time unless it came to
its end before; the flag tells whether it did not. -/
def endBy (run : Run) (time : Nat) (outer : Run) : Bool × Run :=
  if run.elapsed ≤ time then
    (false, { run with
      done := run.done ++ outer.done
      pending := run.pending ++ outer.pending
      lingers := max run.lingers outer.lingers })
  else
    let kept := (inOrder run.done.reverse).filter (·.time ≤ time)
    (true, { run with
      files := kept.foldl (fun fs event => event.effect.onFiles fs) outer.files
      elapsed := time
      done := kept.reverse ++ outer.done
      pending := outer.pending
      lingers := outer.lingers })

/-- The run of a program after another one that ran apart from it: files, time and what was done go
on, all else is as before. -/
def rejoin (outer inner : Run) : Run :=
  { outer with
    files := inner.files
    input := inner.input
    elapsed := inner.elapsed
    done := inner.done
    pending := inner.pending
    lingers := max outer.lingers inner.lingers
    awakenings := inner.awakenings
    nextPid := inner.nextPid
    nextChannel := inner.nextChannel }

end Run

/-- A program that is part of the machine: its exit code, given its arguments. -/
abbrev Tool := List String → Run → Nat × Run

/-- The wording of an error, without its number. -/
def plainMessage : IoError → String
  | .os e => e.text
  | e => e.message

end LineShell.Machine
