import LineShell.Builtin.Echo
import LineShell.Builtin.Help
import LineShell.Builtin.Host
import LineShell.Builtin.Processes
import LineShell.Builtin.Tree
import LineShell.Command.Pipeline
import LineShell.Command.Redirect
import LineShell.Session

/-!
# Executing plans

A word that names a built-in command runs it in the shell itself, but only as a simple command: the
stages of a pipeline and background commands are always programs.
-/
namespace LineShell

namespace Shell

/-- The shell after a command that changes files only. -/
def withFiles (shell : Shell σ) (result : Builtin.FileReport) : Report × Shell σ :=
  (result.1, { shell with world := { shell.world with files := result.2 } })

/-- The shell after a command that may change all of its world. -/
def withWorld (shell : Shell σ) (result : Report × World σ) : Report × Shell σ :=
  (result.1, { shell with world := result.2 })

end Shell

def Builtin.run (sys : System σ) (b : Builtin) (args : List String) (shell : Shell σ) :
    Report × Shell σ :=
  let session := shell.session
  let dir := session.workingDir
  let files := shell.world.files
  match b with
  | .cat => shell.withFiles (runCat dir args files)
  | .cd =>
    match runCd dir args files with
    | .error e => (.error e, shell)
    | .ok dir => (.ok .silent, { shell with session := { session with workingDir := dir } })
  | .clear => (.ok (.raw clearScreen), shell)
  | .cp => shell.withFiles (runCp dir args files)
  | .date => (.ok (.text (dateText (sys.localTime shell.world))), shell)
  | .disk => (reportFigure .disk args (measureDisk sys shell.world), shell)
  | .echo => (runEcho Builtin.echo.usage args, shell)
  | .exit => (.ok .exit, shell)
  | .help => (.ok (.text (helpText session.palette)), shell)
  | .history => (.ok (.text (historyText session.history)), shell)
  | .hostname => (.ok (.text session.host), shell)
  | .kill =>
    shell.withWorld (runKill sys session.palette session.config.killTimeout args shell.world)
  | .ls => (runLs session.palette dir args files, shell)
  | .mkdir => shell.withFiles (runMkdir dir args files)
  | .mv => shell.withFiles (runMv dir args files)
  | .nano => shell.withWorld (runNano sys dir args shell.world)
  | .openWith => shell.withWorld (runOpen sys dir args shell.world)
  | .pwd => (.ok (.text (Utf8.lossy dir)), shell)
  | .ram => (reportFigure .ram args (measureMemory sys shell.world), shell)
  | .rm => shell.withFiles (runRm dir args files)
  | .rmdir => shell.withFiles (runRmdir dir args files)
  | .top => shell.withWorld (runTop sys shell.world)
  | .touch => shell.withFiles (runTouch dir args files)
  | .tree => (runTree session.palette dir args files, shell)
  | .whoami => (.ok (.text session.user), shell)
  | .jobs => (.ok (.text (jobsText session.jobs)), shell)
  | .ps => shell.withWorld (runPs sys dir args shell.world)

def SimpleCommand.run (sys : System σ) (cmd : SimpleCommand) (shell : Shell σ) :
    Report × Shell σ :=
  match Builtin.ofName? cmd.program with
  | some b => b.run sys cmd.args shell
  | none =>
    match shell.session.launcher.run sys shell.session.workingDir cmd shell.world with
    | (.error e, world) => (.error (.launch e), { shell with world })
    | (.ok stdout, world) => (.ok (Launcher.outcome stdout), { shell with world })

def Plan.execute (sys : System σ) (plan : Plan) (shell : Shell σ) : Report × Shell σ :=
  let dir := shell.session.workingDir
  match plan with
  | .noOp => (.ok .silent, shell)
  | .simple cmd => cmd.run sys shell
  | .piped stages =>
    let (result, world) := Pipeline.run sys dir stages shell.world
    (result.map .text, { shell with world })
  | .redirected redirection =>
    let (result, files) := redirection.apply dir shell.world.files
    (result.map fun read => read.elim .silent .text,
      { shell with world := { shell.world with files } })
  | .backgrounded cmd =>
    match Job.launch sys dir cmd shell.world with
    | (.error e, world) => (.error (.launch e), { shell with world })
    | (.ok job, world) =>
      let session := { shell.session with jobs := shell.session.jobs ++ [job] }
      (.ok (.text job.announcement), { session, world })

end LineShell
