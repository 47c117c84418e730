import LineShell.Process.Lookup

/-!
# Ending processes

A process is first asked to end. It then has some time to go away, and is killed if it is still
there when that has passed. A zombie has ended and counts as gone.
-/
namespace LineShell

/-- How a process was ended. -/
inductive Termination where
  /-- It went away when it was asked to. -/
  | graceful
  /-- It was killed. -/
  | forced
  deriving Repr, DecidableEq

namespace System

def send (sys : System σ) (pid : Pid) (signal : Option Signal) (world : World σ) :
    Except ShellError Unit × World σ :=
  match sys.signal pid signal world with
  | (.ok (), world) => (.ok (), world)
  | (.error e, world) =>
    if e = .noProcess then (.error (.noSuchProcess pid), world)
    else if e = .notPermitted then
      (.error (.permission s!"cannot signal process {pid}"), world)
    else (.error (.ofErrno e), world)

/-- Whether a process is there and no zombie. -/
def isAlive (sys : System σ) (pid : Pid) (world : World σ) : Bool × World σ :=
  match send sys pid none world with
  | (.error _, world) => (false, world)
  | (.ok (), world) =>
    let (info, world) := stat sys pid world
    (info.all (·.state != .zombie), world)

theorem now_send (sys : System σ) (pid : Pid) (signal : Option Signal) (world : World σ) :
    sys.now world ≤ sys.now (send sys pid signal world).2 := by
  have h := sys.now_signal pid signal world
  unfold send
  split
  · next heq => rwa [heq] at h
  · next heq => rw [heq] at h; split <;> (try split) <;> exact h

theorem now_isAlive (sys : System σ) (pid : Pid) (world : World σ) :
    sys.now world ≤ sys.now (isAlive sys pid world).2 := by
  have h := now_send sys pid none world
  unfold isAlive
  split
  · next heq => rwa [heq] at h
  · next w heq =>
    rw [heq] at h
    exact Nat.le_trans h (sys.now_statLine pid w)

/-- The milliseconds between two looks at a process. -/
def pollInterval : Nat := 50

/-- Looks at a process time and again until it is gone or the deadline has passed. The last look
comes after the deadline. Tells whether the process is gone. -/
def awaitEnd (sys : System σ) (pid : Pid) (deadline : Nat) (world : World σ) : Bool × World σ :=
  let alive := isAlive sys pid world
  if !alive.1 then (true, alive.2)
  else if _h : sys.now world < deadline then
    awaitEnd sys pid deadline (sys.pause pollInterval alive.2)
  else (false, alive.2)
termination_by deadline - sys.now world
decreasing_by
  have h₁ := now_isAlive sys pid world
  have h₂ := sys.now_pause pollInterval (isAlive sys pid world).2
  simp only [pollInterval] at h₂ ⊢
  omega

/-- Ends a process that has `timeout` milliseconds to go away by itself. The clock is read to set
the deadline and read again to be compared with it, and it may go on in between. -/
def terminate (sys : System σ) (pid : Pid) (timeout : Nat) (world : World σ) :
    Except ShellError Termination × World σ :=
  match send sys pid (some .terminate) world with
  | (.error e, world) => (.error e, world)
  | (.ok (), world) =>
    match awaitEnd sys pid (sys.now world + timeout) (sys.pause 0 world) with
    | (true, world) => (.ok .graceful, world)
    | (false, world) =>
      match send sys pid (some .kill) world with
      | (.ok (), world) => (.ok .forced, world)
      | (.error (.noSuchProcess _), world) => (.ok .graceful, world)
      | (.error e, world) => (.error e, world)

end System
end LineShell
