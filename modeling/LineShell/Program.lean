import LineShell.Banner
import LineShell.Environment.File
import LineShell.FileSystem.Copy
import LineShell.Repl

/-!
# The program

Starting up: variables, settings, log file, banner; then the loop.
-/
namespace LineShell

/-- Who runs the program, and where. -/
structure Setting where
  cwd : Path
  user : String
  host : String
  /-- Whether the standard output is a terminal. -/
  terminal : Bool
  /-- The width of the banner. -/
  width : Nat

namespace Program

/-- The variable that names the file with the settings. -/
def configVariable : String := "IIUI_SHELL_CONFIG"

def homeVariable : String := "HOME"

def logFile : Path := Utf8.encode "iiui-shell.log"

/-- Opens the log, making its directory if need be. -/
def openLog (fs : FileSystem) (cwd dir : Path) : FileSystem.Change Unit :=
  let path := Path.join cwd (Path.join dir logFile)
  match fs.update path id with
  | (.ok (), fs) => (.ok (), fs)
  | (.error e, fs) =>
    match Path.parent? path with
    | none => (.error e, fs)
    | some parent =>
      match fs.makeDirAll parent with
      | (.error e, fs) => (.error e, fs)
      | (.ok (), fs) => fs.update path id

def badConfigCode : Nat := 1

def breakdownCode : Nat := 101

/-- Runs the program. Gives its exit code and the world that it leaves. -/
def run (sys : System σ) (setting : Setting) (world : World σ) : Nat × World σ :=
  match world.env.load? world.files setting.cwd with
  | none => (breakdownCode, world)
  | some env =>
    let world := { world with env }
    match Config.load world.files setting.cwd ((env.get? configVariable).map Utf8.encode) with
    | .error _ => (badConfigCode, world)
    | .ok config =>
      match openLog world.files setting.cwd config.logDir with
      | (.error _, files) => (breakdownCode, { world with files })
      | (.ok (), files) =>
        let session := Session.start config setting.terminal setting.cwd setting.user setting.host
          ((env.get? homeVariable).map Utf8.encode)
        let world := { world with files }
        let world :=
          if config.banner then world.print (Banner.render session.palette setting.width) else world
        (0, (Repl.run (Dispatch.ofLine sys) ⟨session, world⟩).2.world)

end Program
end LineShell
