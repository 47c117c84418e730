import LineShell.Machine.Script.Interpret

/-!
# Children

A program is run to its end when it is started, on the files as they are then. What it does at that
very moment happens at once; what it does later is kept until the clock gets there, and does not
happen at all if the program is ended before.
-/
namespace LineShell.Machine

/-- A program that was started. Times are those of the clock of the machine. -/
structure Child where
  pid : Pid
  name : String
  ends : Nat
  /-- When no program writes to its streams any more. -/
  closes : Nat
  /-- The exit code, unless a signal ends the program. -/
  code : Option Nat
  /-- What it writes to its standard output, if that is collected. -/
  output : Flow
  /-- What it writes to its standard error, if that is collected. -/
  errors : Bytes
  /-- What it still does, in the order of time. -/
  pending : List Event
  /-- How it answers requests to end, and since when, the last first. -/
  answers : List (Nat × Answer)
  /-- When it looks up from what it waits for. -/
  awakenings : List Nat

namespace Child

def isRunning (child : Child) (now : Nat) : Bool :=
  now < child.ends

/-- A program that has come to its end: the child that it is, given when it was started and whether
its standard output is collected. -/
def ofRun (begun : Nat) (collected : Bool) (code : Nat) (run : Run) : Child :=
  let events := inOrder (run.done.reverse ++ run.pending)
  let events := events.map fun event => { event with time := begun + event.time }
  let kept := events.filter fun event =>
    !event.isSendTo errorChannel && !(collected && event.isSendTo outputChannel)
  { pid := run.pid
    name := run.name
    ends := begun + run.elapsed
    closes := begun + max run.elapsed run.lingers
    code := if run.killedBy.isSome then none else some code
    output := if collected then sentTo outputChannel events else .empty
    errors := (sentTo errorChannel events).bytes
    pending := kept
    answers := run.answers.map fun (t, a) => (begun + t, a)
    awakenings := (run.awakenings.reverse.map (begun + ·)).mergeSort fun a b => decide (a ≤ b) }

def stop (child : Child) (now : Nat) : Child :=
  if child.isRunning now then
    { child with ends := now, closes := now, code := none, pending := [] }
  else child

def request (child : Child) (now : Nat) (files : FileSystem) : Child :=
  if !child.isRunning now then child
  else
    match child.answers.find? fun a => a.1 ≤ now with
    | none | some (_, .obey) => child.stop now
    | some (_, .ignore) => child
    | some (_, .act f) =>
      let moment := (child.awakenings.find? (now ≤ ·)).getD child.ends
      let (effects, leaves) := f files
      let before := child.pending.filter fun e => e.time < moment
      let after := if leaves then [] else child.pending.filter fun e => moment ≤ e.time
      { child with
        pending := before ++ effects.map (⟨moment, child.pid, ·⟩) ++ after
        ends := if leaves then moment else child.ends
        closes := if leaves then moment else child.closes }

end Child
end LineShell.Machine
