import LineShell.Machine.Tool.Print

/-!
# Tools that run another program in a setting of its own

The program is the rest of their words.
-/
namespace LineShell.Machine

/-- A way to run a program, given the name of the tool that does so, and the words of the program. -/
abbrev Launch := String → List String → Run → Nat × Run

/-- The words of a text that blanks separate and quotes hold together. -/
def splitWords : Option Char → Option (List Char) → List Char → List String
  | _, none, [] => []
  | _, some word, [] => [String.ofList word.reverse]
  | some quote, word, c :: cs =>
    if c = quote then splitWords none (some (word.getD [])) cs
    else splitWords (some quote) (some (c :: word.getD [])) cs
  | none, word, '\\' :: c :: cs => splitWords none (some (c :: word.getD [])) cs
  | none, word, c :: cs =>
    if c.isWhitespace then
      match word with
      | some word => String.ofList word.reverse :: splitWords none none cs
      | none => splitWords none none cs
    else if c = '\'' || c = '"' then splitWords (some c) (some (word.getD [])) cs
    else splitWords none (some (c :: word.getD [])) cs

def envTable : OptionTable where
  flags := "i0v"
  valued := "uCS"
  long := [("ignore-environment", 'i'), ("null", '0'), ("debug", 'v'), ("unset", 'u'),
    ("chdir", 'C'), ("split-string", 'S')]
  leading := true

/-- The words of a command line in which the value of an option for a whole text is replaced by
the words of that. -/
def withSplitText : List String → List String
  | "-S" :: text :: rest => splitWords none none text.toList ++ rest
  | word :: rest =>
    if word.startsWith "-S" then
      splitWords none none (word.toList.drop 2) ++ rest
    else if word.startsWith "--split-string=" then
      splitWords none none (word.toList.drop "--split-string=".length) ++ rest
    else if word.startsWith "-" && word ≠ "--" then word :: withSplitText rest
    else word :: rest
  | [] => []

/-- Sets the variables that words with an equals sign give, up to the first other word. -/
def setVariables : List String → Environment → Environment × List String
  | [], env => (env, [])
  | word :: rest, env =>
    if word.contains '=' then
      let name := word.toList.takeWhile (· != '=')
      let value := String.ofList (word.toList.drop (name.length + 1))
      setVariables rest (env.set (String.ofList name) value)
    else (env, word :: rest)

/-- Runs a program with other variables, or prints them. -/
def envTool (launch : Launch) : Tool := fun args run =>
  withOptions "env" 125 envTable (fun parsed run =>
    let (bare, operands) := match parsed.operands with
      | "-" :: rest => (true, rest)
      | operands => (false, operands)
    let env := if bare || parsed.has 'i' then [] else run.env
    let env := env.filter fun (name, _) => !(parsed.values 'u').contains name
    let (env, words) := setVariables operands env
    match (parsed.value? 'C').map fun dir => (dir, run.resolve dir) with
    | some (dir, path) =>
      if run.files.isDir path then
        let (code, after) := launch "env" words { run with env, cwd := path }
        (code, { after with cwd := run.cwd })
      else
        (125, run.complain ("env: cannot change directory to " ++ quoteName dir
          ++ ": No such file or directory"))
    | none =>
      if words.isEmpty then
        let ending := if parsed.has '0' then "\x00" else "\n"
        (0, run.put (String.join (env.map fun (n, v) => n ++ "=" ++ v ++ ending)))
      else launch "env" words { run with env }) (withSplitText args) run

def timeoutTool (launch : Launch) : Tool :=
  withOptions "timeout" 125
    { flags := "vfp"
      valued := "ks"
      long := [("kill-after", 'k'), ("signal", 's'), ("verbose", 'v'), ("foreground", 'f'),
        ("preserve-status", 'p')]
      leading := true }
    fun parsed run =>
      match parsed.operands with
      | limit :: name :: rest =>
        match duration? limit with
        | none =>
          (125, run.complain (withHelp "timeout"
            ("timeout: invalid time interval " ++ quoteText limit)))
        | some limit =>
          let begun := { run with done := [], pending := [], lingers := 0 }
          let (status, after) := launch "timeout" (name :: rest) begun
          -- Without a limit the program may run forever.
          let deadline := if limit = 0 then after.elapsed else run.elapsed + limit
          let (late, after) := after.endBy deadline run
          let kill := ["KILL", "SIGKILL", "9"].contains ((parsed.value? 's').getD "")
          if !late then (status, after)
          else if kill then (137, { after with killedBy := some 9 })
          else (if parsed.has 'p' then 143 else 124, after)
      | _ => (125, run.complain "Try 'timeout --help' for more information.")

/-- The words of a command line with an old-style number such as `-5` made an option. -/
def modernNiceness (args : List String) : List String :=
  match args with
  | first :: rest =>
    match first.toList with
    | '-' :: c :: cs =>
      let digits := if c = '-' || c = '+' then cs else c :: cs
      if !digits.isEmpty && digits.all Char.isDigit then
        "-n" :: String.ofList (c :: cs) :: rest
      else args
    | _ => args
  | [] => args

/-- Runs a program that gives way to others, or prints how much. -/
def niceTool (launch : Launch) : Tool := fun args run =>
  withOptions "nice" 125
    { flags := "", valued := "n", long := [("adjustment", 'n')], leading := true }
    (fun parsed run =>
      match parsed.operands with
      | [] => (0, run.put "0\n")
      | words => launch "nice" words run) (modernNiceness args) run

/-- Runs a program as it is. -/
def plainTool (tool : String) (table : OptionTable) (launch : Launch) : Tool :=
  withOptions tool 125 table fun parsed run =>
    match parsed.operands with
    | [] => (125, run.complain (withHelp tool (tool ++ ": missing operand")))
    | words => launch tool words run

/-- Runs a program that outlives the terminal. -/
def nohupTool : Launch → Tool :=
  plainTool "nohup" { flags := "", valued := "", leading := true }

/-- Runs a program in a session of its own. -/
def setsidTool : Launch → Tool :=
  plainTool "setsid" { flags := "cfw", valued := "", leading := true }

/-- Runs a program whose streams are buffered otherwise. -/
def stdbufTool : Launch → Tool :=
  plainTool "stdbuf"
    { flags := ""
      valued := "ioe"
      long := [("input", 'i'), ("output", 'o'), ("error", 'e')]
      leading := true }

end LineShell.Machine
