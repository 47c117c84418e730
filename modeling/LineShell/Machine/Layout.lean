import LineShell.Machine.Image
import LineShell.Machine.Script.Runner
import LineShell.Machine.Tool.Table

/-!
# The files of a machine

The top of the tree of a machine on which only the programs that it comes with are installed.
-/
namespace LineShell.Machine

/-- The programs of the machine, each in an executable file. -/
def programFiles : Entries :=
  (tools.map (·.1) ++ Script.runnerNames).map fun name =>
    (Utf8.encode name, .file (Image.ofProgram name) true)

/-- The files of a machine, without those of its users. -/
def systemFiles : FileSystem :=
  let empty (name : String) : Name × Node := (name, .dir [])
  ⟨[
    ("bin", .link "usr/bin"),
    empty "boot",
    ("dev", .dir [("null", .device)]),
    empty "etc",
    empty "home",
    ("lib", .link "usr/lib"),
    empty "media",
    empty "mnt",
    empty "opt",
    empty "proc",
    empty "root",
    empty "run",
    ("sbin", .link "usr/sbin"),
    empty "srv",
    empty "sys",
    empty "tmp",
    ("usr", .dir [("bin", .dir programFiles), empty "lib", empty "local", empty "sbin"]),
    empty "var"]⟩

end LineShell.Machine
