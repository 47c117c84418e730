/-!
# Plans

A command line asks for exactly one of five things: nothing, one command, a pipeline, a
redirection, or a command in the background.
-/
namespace LineShell

/-- A program with its arguments. -/
structure SimpleCommand where
  program : String
  args : List String
  deriving Repr, DecidableEq

namespace SimpleCommand

/-- The program followed by its arguments. -/
def words (cmd : SimpleCommand) : List String :=
  cmd.program :: cmd.args

/-- The command that a list of words spells; an empty list spells none. -/
def ofWords? : List String → Option SimpleCommand
  | [] => none
  | program :: args => some ⟨program, args⟩

@[simp] theorem ofWords?_words (cmd : SimpleCommand) : ofWords? cmd.words = some cmd := rfl

/-- The words separated by single spaces, as messages show a command. -/
def display (cmd : SimpleCommand) : String :=
  " ".intercalate cmd.words

end SimpleCommand

inductive RedirectMode where
  | truncate
  | append
  | readFrom
  deriving Repr, DecidableEq

/-- A command whose text goes to a file, or is taken from one. -/
structure Redirection where
  command : SimpleCommand
  /-- What stands between the program and the operator, without the quotes. -/
  text : String
  mode : RedirectMode
  target : String
  deriving Repr, DecidableEq

/-- What one line asks for. -/
inductive Plan where
  | noOp
  | simple (cmd : SimpleCommand)
  | piped (stages : List SimpleCommand)
  | redirected (redirection : Redirection)
  | backgrounded (cmd : SimpleCommand)
  deriving Repr, DecidableEq

end LineShell
