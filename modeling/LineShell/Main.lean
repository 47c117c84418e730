import LineShell.Machine.Basic
import LineShell.Machine.Layout
import LineShell.Program

/-!
# The command line

Reads lines from the standard input and runs them on a machine in memory.
-/
namespace LineShell

/-- A machine with a home directory, and the input that the shell reads. -/
def machineWorld (input : Bytes) : World Machine where
  files := Machine.systemFiles
  env := [("PATH", "/usr/bin:/bin"), ("HOME", "/root"), ("LC_ALL", "C")]
  input := .ok input
  output := []
  outside := .fresh

/-- The user of the machine. -/
def machineSetting : Setting :=
  ⟨"/root", "root", "machine", false, Banner.defaultWidth⟩

partial def readAll (stream : IO.FS.Stream) (begun : ByteArray) : IO ByteArray := do
  let chunk ← stream.read 65536
  if chunk.isEmpty then return begun
  readAll stream (begun ++ chunk)

end LineShell

/-- Runs the shell; the result is its exit code. -/
def main : IO UInt32 := do
  let input ← LineShell.readAll (← IO.getStdin) .empty
  let (code, world) := LineShell.Program.run LineShell.Machine.system LineShell.machineSetting
    (LineShell.machineWorld input.toList)
  let stdout ← IO.getStdout
  stdout.write ⟨world.output.toArray⟩
  stdout.flush
  return code.toUInt32
