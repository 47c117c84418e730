import LineShell.Process.Termination
import Mathlib.Tactic.Common

/-!
# What is asked about processes, and when

Every system can keep a record of the signals that it is told to send and of the status lines that
are read, each with the answer and with what the clock showed before and after it. It does what it
did otherwise, so the record is that of a run which could have happened without it. The record has
the children that are killed, too.
-/
namespace LineShell

/-- An answer, with what the clock showed when it was asked for and when it was given. -/
structure Reply (α : Type) where
  asked : ℕ
  given : ℕ
  answer : α

/-- A request about a process. -/
inductive Probe where
  | signal (pid : Pid) (signal : Option Signal) (reply : Reply (Except Errno Unit))
  | status (pid : Pid) (reply : Reply (Option String))
  /-- A child is killed at once. -/
  | killChild (pid : Pid)

namespace Probe

/-- The process that a signal is sent to. -/
def target? : Probe → Option Pid
  | .signal pid _ _ | .killChild pid => some pid
  | .status _ _ => none

@[simp] theorem target?_signal (pid : Pid) (signal : Option Signal)
    (reply : Reply (Except Errno Unit)) : (Probe.signal pid signal reply).target? = some pid :=
  rfl

@[simp] theorem target?_status (pid : Pid) (reply : Reply (Option String)) :
    (Probe.status pid reply).target? = none :=
  rfl

end Probe

/-- What is outside of a shell, with the record. -/
structure Timed (σ : Type) where
  outside : σ
  record : List Probe

namespace World
variable {σ α : Type}

/-- A world in which a record is kept that holds some requests already. -/
def timed (world : World σ) (record : List Probe) : World (Timed σ) :=
  ⟨world.files, world.env, world.input, world.output, ⟨world.outside, record⟩⟩

/-- A world in which no record is kept any more. -/
def untimed (world : World (Timed σ)) : World σ :=
  ⟨world.files, world.env, world.input, world.output, world.outside.outside⟩

/-- What is answered without an entry in the record. -/
def passed (before : World (Timed σ)) (result : α × World σ) : α × World (Timed σ) :=
  (result.1, result.2.timed before.outside.record)

/-- What is answered with an entry in the record. -/
def entered (before : World (Timed σ)) (probe : Probe) (result : α × World σ) :
    α × World (Timed σ) :=
  (result.1, result.2.timed (before.outside.record ++ [probe]))

end World

namespace System
variable {σ : Type} (sys : System σ)

/-- How a signal is answered. -/
def signalReply (pid : Pid) (signal : Option Signal) (world : World σ) :
    Reply (Except Errno Unit) :=
  ⟨sys.now world, sys.now (sys.signal pid signal world).2, (sys.signal pid signal world).1⟩

/-- The status line that is read. -/
def statusReply (pid : Pid) (world : World σ) : Reply (Option String) :=
  ⟨sys.now world, sys.now (sys.statLine pid world).2, (sys.statLine pid world).1⟩

/-- A system that keeps a record. -/
def timed : System (Timed σ) where
  start cmd dir streams world := world.passed (sys.start cmd dir streams world.untimed)
  wait pid world := world.passed (sys.wait pid world.untimed)
  collect pid world := world.passed (sys.collect pid world.untimed)
  kill pid world := world.entered (.killChild pid) (sys.kill pid world.untimed)
  signal pid signal world :=
    world.entered (.signal pid signal (sys.signalReply pid signal world.untimed))
      (sys.signal pid signal world.untimed)
  statLine pid world :=
    world.entered (.status pid (sys.statusReply pid world.untimed)) (sys.statLine pid world.untimed)
  processNames world := world.passed (sys.processNames world.untimed)
  ownPid := sys.ownPid
  now world := sys.now world.untimed
  pause n world := (sys.pause n world.untimed).timed world.outside.record
  memoryTable world := sys.memoryTable world.untimed
  disk world := sys.disk world.untimed
  localTime world := sys.localTime world.untimed
  now_signal pid signal world := sys.now_signal pid signal world.untimed
  now_statLine pid world := sys.now_statLine pid world.untimed
  now_pause n world := sys.now_pause n world.untimed

variable (world : World σ) (record : List Probe)

@[simp] theorem signal_timed (pid : Pid) (signal : Option Signal) :
    sys.timed.signal pid signal (world.timed record) =
      ((sys.signal pid signal world).1, (sys.signal pid signal world).2.timed
        (record ++ [.signal pid signal (sys.signalReply pid signal world)])) :=
  rfl

@[simp] theorem statLine_timed (pid : Pid) :
    sys.timed.statLine pid (world.timed record) =
      ((sys.statLine pid world).1, (sys.statLine pid world).2.timed
        (record ++ [.status pid (sys.statusReply pid world)])) :=
  rfl

@[simp] theorem processNames_timed :
    sys.timed.processNames (world.timed record) =
      ((sys.processNames world).1, (sys.processNames world).2.timed record) :=
  rfl

@[simp] theorem ownPid_timed : sys.timed.ownPid = sys.ownPid := rfl

@[simp] theorem now_timed : sys.timed.now (world.timed record) = sys.now world := rfl

@[simp] theorem pause_timed (n : ℕ) :
    sys.timed.pause n (world.timed record) = (sys.pause n world).timed record :=
  rfl

theorem stat_timed (pid : Pid) :
    sys.timed.stat pid (world.timed record) =
      ((sys.stat pid world).1, (sys.stat pid world).2.timed
        (record ++ [.status pid (sys.statusReply pid world)])) :=
  rfl

end System
end LineShell
