import LineShell.Outcome

/-!
# The echo command
-/
namespace LineShell.Builtin

/-- Texts with every escape replaced, up to the first that cannot be decoded. -/
def unescapeAll : List String → Except EscapeError (List String)
  | [] => .ok []
  | word :: rest =>
    match unescape word with
    | .error e => .error e
    | .ok text => (unescapeAll rest).map (text :: ·)

/-- The arguments with escapes replaced and spaces between them. -/
def runEcho (usage : String) (args : List String) : Report :=
  if args.isEmpty then .error (.usage usage)
  else
    match unescapeAll args with
    | .error e => .error (.escape e)
    | .ok texts => .ok (.text (" ".intercalate texts))

end LineShell.Builtin
