import LineShell.FileSystem.Access
import LineShell.Style
import LineShell.Toml.Document

/-!
# Settings

What a user may set in a file, and what holds when the file does not say. Keys that mean nothing
are passed over; a key that means something must have a value of its kind.
-/
namespace LineShell

/-- How foreground programs are run. -/
inductive LauncherKind where
  | auto
  | native
  | subshell
  deriving Repr, DecidableEq

structure Config where
  /-- The name of the shell in the prompt and in diagnostics. -/
  shellName : String := "IIUI-Shell"
  /-- The directory that a tilde stands for in the prompt, if it is not the home directory. -/
  promptRoot : Option Path := none
  color : ColorMode := .auto
  launcher : LauncherKind := .auto
  /-- How many milliseconds a process has to go away before it is killed. -/
  killTimeout : Nat := 3000
  logDir : Path := [Path.dot]
  banner : Bool := true
  deriving Repr, DecidableEq

/-- Why settings could not be loaded. -/
inductive ConfigError where
  | read (path : Path) (cause : IoError)
  | parse (path : Path)
  deriving Repr, DecidableEq

namespace Config

/-- The word for a choice: a string, or the only key of a table, whose value is an empty table. -/
def choice? : Toml.Item → Option String
  | .string s => some s
  | .inlineTable [(key, item)] | .table _ _ [(key, item)] =>
    match item with
    | .inlineTable [] | .table _ _ [] => some key
    | _ => none
  | _ => none

def colorMode? (item : Toml.Item) : Option ColorMode := do
  match ← choice? item with
  | "auto" => some .auto
  | "always" => some .always
  | "never" => some .never
  | _ => none

def launcherKind? (item : Toml.Item) : Option LauncherKind := do
  match ← choice? item with
  | "auto" => some .auto
  | "native" => some .native
  | "subshell" => some .subshell
  | _ => none

/-- The settings changed by one entry. -/
def set? (config : Config) (key : String) (item : Toml.Item) : Option Config :=
  match key, item with
  | "shell_name", .string s => some { config with shellName := s }
  | "prompt_root", .string s => some { config with promptRoot := some (Utf8.encode s) }
  | "color", item => (colorMode? item).map fun mode => { config with color := mode }
  | "launcher", item => (launcherKind? item).map fun kind => { config with launcher := kind }
  | "kill_timeout_ms", .integer n =>
    if 0 ≤ n then some { config with killTimeout := n.toNat } else none
  | "log_dir", .string s => some { config with logDir := Utf8.encode s }
  | "banner", .boolean b => some { config with banner := b }
  | key, _ =>
    if ["shell_name", "prompt_root", "kill_timeout_ms", "log_dir", "banner"].contains key then none
    else some config

def ofText? (text : String) : Option Config := do
  (← Toml.parse? text).foldlM (fun config (key, item) => config.set? key item) {}

def ofFile (fs : FileSystem) (cwd path : Path) : Except ConfigError Config :=
  match fs.readText (Path.join cwd path) with
  | .error e => .error (.read path e)
  | .ok text =>
    match ofText? text with
    | some config => .ok config
    | none => .error (.parse path)

/-- The file that settings are taken from when no other is named. -/
def defaultFile : Path := Utf8.encode "iiui.toml"

/-- The settings in the named file, else those in the default file if there is one, else the
defaults. -/
def load (fs : FileSystem) (cwd : Path) (named : Option Path) : Except ConfigError Config :=
  match named with
  | some path => ofFile fs cwd path
  | none => if fs.isFile (Path.join cwd defaultFile) then ofFile fs cwd defaultFile else .ok {}

/-- The directory that a tilde stands for: the one that is set, else the home directory. -/
def tilde (config : Config) (home : Option Path) : Option Path :=
  config.promptRoot.or home

end Config

/-- The wording of a fault in the settings that could not be read. -/
def ConfigError.message : ConfigError → String
  | .read path cause => "failed to read config file " ++ Utf8.lossy path ++ ": " ++ cause.message
  | .parse path => "invalid config file " ++ Utf8.lossy path

end LineShell
