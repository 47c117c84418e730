import LineShell.Command.Plan
import LineShell.Command.Token
import LineShell.Text.Blank

/-!
# Reading a plan off a line

The tokens of a line decide which plan it is. A line that breaks several rules is refused for the
first of them in a fixed order: quotes, then pipes with redirections, then the background mark.
-/
namespace LineShell

inductive ParseError where
  | lexer (faults : List LexError)
  | pipeWithRedirection
  | emptyPipeStage
  | multipleRedirections
  | missingRedirectTarget
  | misplacedBackground
  | missingCommand
  deriving Repr, DecidableEq

def ParseError.message : ParseError → String
  | .lexer faults =>
    "failed to tokenize command: " ++ ", ".intercalate (faults.map LexError.message)
  | .pipeWithRedirection => "pipes cannot be combined with redirection"
  | .emptyPipeStage => "empty command in pipeline"
  | .multipleRedirections => "only one of >, >> or < may be used"
  | .missingRedirectTarget => "missing file after redirection operator"
  | .misplacedBackground => "& is only allowed at the end of a simple command"
  | .missingCommand => "missing command"

namespace Plan

/-- A token of a line with its place. -/
abbrev Placed := Token × Span

def faults (found : List (Except LexError Token × Span)) : List LexError :=
  found.filterMap fun
    | (.error fault, _) => some fault
    | (.ok _, _) => none

def placed (found : List (Except LexError Token × Span)) : List Placed :=
  found.filterMap fun
    | (.error _, _) => none
    | (.ok token, span) => some (token, span)

def words : List Placed → Except ParseError (List String)
  | [] => .ok []
  | (.word text, _) :: rest => (words rest).map (text :: ·)
  | (.background, _) :: _ => .error .misplacedBackground
  | _ :: _ => .error .multipleRedirections

/-- The command spelled by tokens that should all be words; `missing` is the fault of having
none. -/
def command (missing : ParseError) (tokens : List Placed) : Except ParseError SimpleCommand := do
  match SimpleCommand.ofWords? (← words tokens) with
  | some cmd => .ok cmd
  | none => .error missing

/-- The pieces between the pipes; there is one more of them than there are pipes. -/
def stages : List Placed → List (List Placed)
  | [] => [[]]
  | (.pipe, _) :: rest => [] :: stages rest
  | token :: rest =>
    match stages rest with
    | [] => [[token]]
    | stage :: others => (token :: stage) :: others

/-- The plan of a line whose operators are pipes only. -/
def ofPipeline (tokens : List Placed) : Except ParseError Plan :=
  ((stages tokens).mapM (command .emptyPipeStage)).map .piped

def redirectMode : Token → RedirectMode
  | .append => .append
  | .write => .truncate
  | _ => .readFrom

/-- A part of a line without the blanks at its ends and without quotes. -/
def bareText (part : List Char) : String :=
  String.ofList (Token.unquote (Text.trimChars part))

/-- The plan of a line with one redirection and no other operator. The text is taken from the line
itself, between the first word and the operator, so its inner blanks are kept; so is the target,
which is all that follows the operator. -/
def ofRedirection (line : List Char) (tokens : List Placed) : Except ParseError Plan := do
  let before := tokens.takeWhile (!·.1.isRedirection)
  let (operator, place) :: _ := tokens.dropWhile (!·.1.isRedirection)
    | .error .missingRedirectTarget
  let (_, first) :: _ := before | .error .missingCommand
  let text := bareText (Text.slice line first.stop place.start)
  let cmd ← command .missingCommand before
  let target := bareText (Text.slice line place.stop (Text.byteLength line))
  if target = "" then .error .missingRedirectTarget
  else .ok (.redirected ⟨cmd, text, redirectMode operator, target⟩)

/-- The plan of a line without faults, given its tokens. -/
def ofTokens (line : List Char) (tokens : List Placed) : Except ParseError Plan :=
  let piped := tokens.any (·.1 == .pipe)
  let redirections := tokens.countP (·.1.isRedirection)
  let backgrounds := tokens.countP (·.1 == .background)
  if tokens.isEmpty then .ok .noOp
  else if piped && 0 < redirections then .error .pipeWithRedirection
  else if piped then
    if 0 < backgrounds then .error .misplacedBackground else ofPipeline tokens
  else if 0 < redirections then
    if 0 < backgrounds then .error .misplacedBackground
    else if 1 < redirections then .error .multipleRedirections
    else ofRedirection line tokens
  else if 0 < backgrounds then
    if 1 < backgrounds || tokens.getLast?.map (·.1) != some .background then
      .error .misplacedBackground
    else (command .missingCommand tokens.dropLast).map .backgrounded
  else (command .missingCommand tokens).map .simple

def parse (line : String) : Except ParseError Plan :=
  let found := Token.lex line
  match faults found with
  | [] => ofTokens line.toList (placed found)
  | fs => .error (.lexer fs)

end Plan
end LineShell
