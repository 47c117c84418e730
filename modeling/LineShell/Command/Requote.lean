import LineShell.Command.Plan

/-!
# Requoting words for a POSIX shell

A word is written so that a POSIX shell reads exactly that word back. It is cut into chunks, each
as long as one of three styles can write it; a chunk is written in the first such style. A caret
opens a chunk of its own, because some shells treat it specially outside single quotes.
-/
namespace LineShell.Requote

/-- The ways of writing a chunk, the preferred ones first. -/
inductive Style where
  | unquoted
  | single
  | double
  deriving Repr, DecidableEq

namespace Style

/-- Whether a chunk in this style may hold the character. -/
def allows (c : Char) : Style → Bool
  | .unquoted =>
    c.isAlphanum || c == '+' || c == '-' || c == '.' || c == '/' || c == ':' || c == '@'
      || c == ']' || c == '_'
  | .single => !(c == '\'' || c == '^' || c == '\\')
  | .double => !(c == '\x60' || c == '$' || c == '!' || c == '^')

/-- The characters that keep a meaning inside double quotes. -/
def isActive (c : Char) : Bool :=
  c == '$' || c == '\x60' || c == '"' || c == '\\'

def write (chunk : List Char) : Style → List Char
  | .unquoted => chunk
  | .single => '\'' :: chunk ++ ['\'']
  | .double => '"' :: chunk.flatMap (fun c => if isActive c then ['\\', c] else [c]) ++ ['"']

/-- The styles that a chunk may still be written in after its first character. -/
def afterFirst (c : Char) : List Style :=
  if c = '^' then [.single] else [unquoted, single, double].filter (allows c)

end Style

/-- The longest run at the front that one of the styles can write, the styles that can, and the
rest. -/
def extend : List Style → List Char → List Char × List Style × List Char
  | styles, [] => ([], styles, [])
  | styles, c :: cs =>
    match styles.filter (Style.allows c) with
    | [] => ([], styles, c :: cs)
    | s :: ss =>
      let (run, left, rest) := extend (s :: ss) cs
      (c :: run, left, rest)

theorem extend_append (styles : List Style) (cs : List Char) :
    (extend styles cs).1 ++ (extend styles cs).2.2 = cs := by
  induction cs generalizing styles with
  | nil => rfl
  | cons c cs ih =>
    rw [extend]
    split <;> simp [ih]

theorem extend_rest_length_le (styles : List Style) (cs : List Char) :
    (extend styles cs).2.2.length ≤ cs.length := by
  have h := congrArg List.length (extend_append styles cs)
  simp only [List.length_append] at h
  omega

def chunks : List Char → List (Style × List Char)
  | [] => []
  | c :: cs =>
    let next := extend (Style.afterFirst c) cs
    (next.2.1.headD .double, c :: next.1) :: chunks next.2.2
termination_by word => word.length
decreasing_by exact Nat.lt_succ_of_le (extend_rest_length_le _ _)

/-- A word as a POSIX shell reads it back; an empty word needs quotes to be seen. -/
def word (w : String) : String :=
  if w.isEmpty then "''"
  else String.ofList ((chunks w.toList).flatMap fun (style, chunk) => style.write chunk)

/-- The command line that a POSIX shell splits into the given words. Words with a NUL cannot be
passed to any program, and are only joined. -/
def line (words : List String) : String :=
  if words.any (·.toList.contains '\x00') then " ".intercalate words
  else " ".intercalate (words.map word)

end LineShell.Requote

namespace LineShell

def SimpleCommand.shellLine (cmd : SimpleCommand) : String :=
  Requote.line cmd.words

end LineShell
