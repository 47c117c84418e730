import LineShell.Diagnostic

/-!
# The built-in commands

Their names and what the help command says about them, in the order in which it lists them.
-/
namespace LineShell

inductive Builtin where
  | cat
  | cd
  | clear
  | cp
  | date
  | disk
  | echo
  | exit
  | help
  | history
  | hostname
  | kill
  | ls
  | mkdir
  | mv
  | nano
  | openWith
  | pwd
  | ram
  | rm
  | rmdir
  | top
  | touch
  | tree
  | whoami
  | jobs
  | ps
  deriving Repr, DecidableEq

namespace Builtin

def name : Builtin → String
  | .cat => "cat"
  | .cd => "cd"
  | .clear => "clear"
  | .cp => "cp"
  | .date => "date"
  | .disk => "disk"
  | .echo => "echo"
  | .exit => "exit"
  | .help => "help"
  | .history => "history"
  | .hostname => "hostname"
  | .kill => "kill"
  | .ls => "ls"
  | .mkdir => "mkdir"
  | .mv => "mv"
  | .nano => "nano"
  | .openWith => "open"
  | .pwd => "pwd"
  | .ram => "ram"
  | .rm => "rm"
  | .rmdir => "rmdir"
  | .top => "top"
  | .touch => "touch"
  | .tree => "tree"
  | .whoami => "whoami"
  | .jobs => "jobs"
  | .ps => "ps"

/-- What a command does and how to call it. -/
def usage : Builtin → String
  | .cat =>
    "Display file content (cat <file>). Supports piping (<cat file.txt | grep keyword>, "
      ++ "<cat file.txt | sort | uniq>)"
  | .cd => "Change directory (cd <dir>) or go up (cd ..)"
  | .clear => "Clear the terminal screen"
  | .cp => "Copy a file (cp <source_file> <destination_file>)"
  | .date => "Show current date and time"
  | .disk => "Check Disk info: disk total | disk used | disk available"
  | .echo => HowTo.echo
  | .exit => "Exit the shell"
  | .help => "Show help information"
  | .history => "Show command history"
  | .hostname => "Show desktop name"
  | .kill => "Kill a running process by name (kill <name>)"
  | .ls => "List files in current directory. Supports piping (<ls | grep <type>>)"
  | .mkdir => "Create a new directory (mkdir <dir>)"
  | .mv => "Move a file (mv <source_file> <destination_file>)"
  | .nano => "Open a file in nano editor (nano <file>)"
  | .openWith => "Open any file or application using the default program (open <file or app>)"
  | .pwd => "Print current working directory"
  | .ram => "Check RAM info: ram total | ram used | ram available"
  | .rm => "Remove a file (rm <file>)"
  | .rmdir => "Remove a directory (rmdir <dir>)"
  | .top => "List all running processes"
  | .touch => "Create an empty file (touch <file>)"
  | .tree => "Display directory tree structure"
  | .whoami => "Show current user"
  | .jobs => "Jobs List all background jobs."
  | .ps => "Display running processes (<ps aux>). Supports piping.(<ps aux | grep python)"

/-- All built-in commands in the order of the help command. -/
def all : List Builtin := [
  .cat, .cd, .clear, .cp, .date, .disk, .echo, .exit, .help, .history, .hostname, .kill, .ls,
  .mkdir, .mv, .nano, .openWith, .pwd, .ram, .rm, .rmdir, .top, .touch, .tree, .whoami, .jobs, .ps]

def ofName? (word : String) : Option Builtin :=
  all.find? (·.name == word)

theorem ofName?_name (b : Builtin) : ofName? b.name = some b := by
  cases b <;> decide

/-- The first argument, which a command cannot do without. -/
def required (b : Builtin) (args : List String) : Except ShellError String :=
  match args with
  | [] => .error (.usage b.usage)
  | first :: _ => .ok first

end Builtin
end LineShell
