import LineShell.System
import Mathlib.Tactic.Common

/-!
# Calls of a system

Every system can be watched: it does what it did, and keeps a list of what it was asked to do with
children and processes, and what it answered. So it can be said which children a shell started, in
which order and with which streams, and what became of them.
-/
namespace LineShell

/-- A request on children or processes, with the answer to it. -/
inductive Call where
  | start (cmd : SimpleCommand) (dir : Path) (streams : Streams) (answer : Except IoError Pid)
  | wait (pid : Pid) (answer : Except IoError Unit)
  | collect (pid : Pid) (answer : Except IoError Remains)
  | kill (pid : Pid) (answer : Except IoError Unit)
  | signal (pid : Pid) (signal : Option Signal) (answer : Except Errno Unit)
  deriving DecidableEq

namespace Call

def startAnswer? : Call → Option (Except IoError Pid)
  | .start _ _ _ answer => some answer
  | _ => none

/-- Whether a call hands on what a child writes: to another child, or to the shell. -/
def takesOutputOf (pid : Pid) : Call → Bool
  | .start _ _ streams _ => streams.input == .outputOf pid
  | .collect p _ => p == pid
  | _ => false

/-- Whether the shell has waited for a child by this call until it ended; killing waits as well. -/
def Reaps (pid : Pid) : Call → Prop
  | .wait p answer => p = pid ∧ answer = .ok ()
  | .collect p answer => p = pid ∧ ∃ remains, answer = .ok remains
  | .kill p answer => p = pid ∧ answer = .ok ()
  | _ => False

def isKill : Call → Bool
  | .kill .. | .signal .. => true
  | _ => false

end Call

/-- What is outside of a shell, with the calls that were made. -/
structure Watched (σ : Type) where
  outside : σ
  calls : List Call

namespace World
variable {σ : Type}

/-- A world that is watched, after some calls. -/
def watched (world : World σ) (calls : List Call) : World (Watched σ) :=
  ⟨world.files, world.env, world.input, world.output, ⟨world.outside, calls⟩⟩

def unwatched (world : World (Watched σ)) : World σ :=
  ⟨world.files, world.env, world.input, world.output, world.outside.outside⟩

def noted (before : World (Watched σ)) (call : Call) (after : World σ) : World (Watched σ) :=
  after.watched (before.outside.calls ++ [call])

end World

namespace System
variable {σ : Type} (sys : System σ)

/-- A system that keeps a list of the calls that are made. -/
def watched : System (Watched σ) where
  start cmd dir streams world :=
    let (answer, after) := sys.start cmd dir streams world.unwatched
    (answer, world.noted (.start cmd dir streams answer) after)
  wait pid world :=
    let (answer, after) := sys.wait pid world.unwatched
    (answer, world.noted (.wait pid answer) after)
  collect pid world :=
    let (answer, after) := sys.collect pid world.unwatched
    (answer, world.noted (.collect pid answer) after)
  kill pid world :=
    let (answer, after) := sys.kill pid world.unwatched
    (answer, world.noted (.kill pid answer) after)
  signal pid signal world :=
    let (answer, after) := sys.signal pid signal world.unwatched
    (answer, world.noted (.signal pid signal answer) after)
  statLine pid world :=
    let (line, after) := sys.statLine pid world.unwatched
    (line, after.watched world.outside.calls)
  processNames world :=
    let (names, after) := sys.processNames world.unwatched
    (names, after.watched world.outside.calls)
  ownPid := sys.ownPid
  now world := sys.now world.unwatched
  pause n world := (sys.pause n world.unwatched).watched world.outside.calls
  memoryTable world := sys.memoryTable world.unwatched
  disk world := sys.disk world.unwatched
  localTime world := sys.localTime world.unwatched
  now_signal pid signal world := sys.now_signal pid signal world.unwatched
  now_statLine pid world := sys.now_statLine pid world.unwatched
  now_pause n world := sys.now_pause n world.unwatched

variable (world : World σ) (calls : List Call)

@[simp] theorem start_watched (cmd : SimpleCommand) (dir : Path) (streams : Streams) :
    sys.watched.start cmd dir streams (world.watched calls) =
      ((sys.start cmd dir streams world).1,
        (sys.start cmd dir streams world).2.watched
          (calls ++ [.start cmd dir streams (sys.start cmd dir streams world).1])) :=
  rfl

@[simp] theorem collect_watched (pid : Pid) :
    sys.watched.collect pid (world.watched calls) =
      ((sys.collect pid world).1,
        (sys.collect pid world).2.watched (calls ++ [.collect pid (sys.collect pid world).1])) :=
  rfl

end System
end LineShell
