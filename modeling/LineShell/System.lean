import LineShell.Command.Plan
import LineShell.Environment.Basic
import LineShell.FileSystem.Node
import LineShell.IoError
import LineShell.Memory.Usage

/-!
# The system around the shell

What the shell can see of the machine that it runs on: files, its standard streams, and all else,
which it reaches only by the operations of a `System`. Nothing is assumed of these but that the
clock never runs backwards.
-/
namespace LineShell

abbrev Pid := Int

/-- Where a child reads from. -/
inductive InputFrom where
  /-- The standard input of the shell. -/
  | inherited
  /-- What another child writes. -/
  | outputOf (pid : Pid)
  deriving Repr, DecidableEq

/-- Where a child writes to. -/
inductive OutputTo where
  /-- The stream of the shell. -/
  | inherited
  /-- A pipe, to be collected or to be read by another child. -/
  | piped
  deriving Repr, DecidableEq

/-- The standard streams of a child. -/
structure Streams where
  input : InputFrom
  output : OutputTo
  errors : OutputTo
  deriving Repr, DecidableEq

/-- The streams of a child that shares those of the shell. -/
def Streams.shared : Streams := ⟨.inherited, .inherited, .inherited⟩

/-- What a child leaves behind. -/
structure Remains where
  /-- The exit code, unless a signal ended the child. -/
  code : Option Nat
  output : Bytes
  errors : Bytes
  deriving Repr, DecidableEq

/-- Whether a child ended well. -/
def Remains.success (remains : Remains) : Bool :=
  remains.code == some 0

/-- The signals that the shell sends. -/
inductive Signal where
  /-- Asks a process to end. -/
  | terminate
  /-- Ends a process. -/
  | kill
  deriving Repr, DecidableEq

structure DateTime where
  year : Nat
  month : Nat
  day : Nat
  hour : Nat
  minute : Nat
  second : Nat
  deriving Repr, DecidableEq

/-- All that commands can change outside the shell. -/
structure World (σ : Type) where
  files : FileSystem
  /-- The variables that children inherit. -/
  env : Environment
  /-- What is left of the standard input, or why it cannot be read. -/
  input : Except IoError Bytes
  /-- What was written to the standard output. -/
  output : Bytes
  /-- What only the operations of a system look into. -/
  outside : σ

namespace World

def print (world : World σ) (text : String) : World σ :=
  { world with output := world.output ++ Utf8.encode text }

end World

structure System (σ : Type) where
  /-- Starts a program in a directory. -/
  start : SimpleCommand → Path → Streams → World σ → Except IoError Pid × World σ
  /-- Waits until a child has ended. -/
  wait : Pid → World σ → Except IoError Unit × World σ
  /-- Waits until a child has ended, and takes what it wrote to pipes. -/
  collect : Pid → World σ → Except IoError Remains × World σ
  /-- Kills a child and waits until it has ended. -/
  kill : Pid → World σ → Except IoError Unit × World σ
  /-- Sends a signal to a process, or no signal, to see whether it could be sent one. -/
  signal : Pid → Option Signal → World σ → Except Errno Unit × World σ
  /-- The status line of a process. -/
  statLine : Pid → World σ → Option String × World σ
  /-- The names in the directory of processes; some of them are process ids. -/
  processNames : World σ → Except IoError (List String) × World σ
  /-- The process id of the shell. -/
  ownPid : Pid
  /-- The milliseconds that a clock shows. -/
  now : World σ → Nat
  /-- Waits for some milliseconds. -/
  pause : Nat → World σ → World σ
  /-- The memory table. -/
  memoryTable : World σ → Except IoError String
  /-- The usage of the disk that holds the root directory. -/
  disk : World σ → Except Errno Usage
  /-- The date and the time where the user is. -/
  localTime : World σ → DateTime
  now_signal : ∀ pid signal' world, now world ≤ now (signal pid signal' world).2
  now_statLine : ∀ pid world, now world ≤ now (statLine pid world).2
  now_pause : ∀ n world, now world + n ≤ now (pause n world)

end LineShell
