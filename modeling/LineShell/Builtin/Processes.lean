import LineShell.Builtin.Basic
import LineShell.Outcome
import LineShell.Process.Termination
import LineShell.Text.Pad

/-!
# Commands on processes
-/
namespace LineShell.Builtin

def processLine (pid name state : String) : String :=
  Text.padEnd 10 pid ++ " " ++ Text.padEnd 25 name ++ " " ++ Text.padEnd 15 state

/-- The table of all processes. -/
def runTop (sys : System σ) (world : World σ) : Report × World σ :=
  match sys.processes world with
  | (.error e, world) => (.error e, world)
  | (.ok processes, world) =>
    let rows := processes.map fun p => processLine (toString p.pid) p.name p.state.display
    (.ok (.text ("\n".intercalate (processLine "PID" "Name" "Status" :: rows))), world)

def killText (palette : Palette) (pid : Pid) : Termination → String
  | .graceful => s!"Process {pid} terminated successfully."
  | .forced =>
    palette.paint .red (ShellError.timeout pid).message ++ s!"\nProcess {pid} killed."

/-- Ends the first process that goes by a name. -/
def runKill (sys : System σ) (palette : Palette) (timeout : Nat) (args : List String)
    (world : World σ) : Report × World σ :=
  match required .kill args with
  | .error e => (.error e, world)
  | .ok name =>
    match sys.findByName name world with
    | (.error e, world) => (.error e, world)
    | (.ok none, world) => (.error (.noMatchingProcess name), world)
    | (.ok (some process), world) =>
      match sys.terminate process.pid timeout world with
      | (.error e, world) => (.error e, world)
      | (.ok how, world) => (.ok (.text (killText palette process.pid how)), world)

/-- What the system's own process table shows. -/
def runPs (sys : System σ) (dir : Path) (args : List String) (world : World σ) :
    Report × World σ :=
  if args.head? != some "aux" then (.error (.usage Builtin.ps.usage), world)
  else
    match sys.start ⟨"ps", ["aux"]⟩ dir ⟨.inherited, .piped, .piped⟩ world with
    | (.error e, world) => (.error (.io e), world)
    | (.ok pid, world) =>
      match sys.collect pid world with
      | (.error e, world) => (.error (.io e), world)
      | (.ok remains, world) =>
        let text := Utf8.lossy remains.output
        if remains.success then (.ok (.text (Text.trimEnd text)), world)
        else
          let both := Text.trimEnd (text ++ Utf8.lossy remains.errors)
          (.error (.unexpected ("ps failed: " ++ both)), world)

end LineShell.Builtin
