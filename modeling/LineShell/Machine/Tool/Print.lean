import LineShell.Machine.Tool.Printf
import LineShell.Path

/-!
# Tools that print

Words, names, and what is known of the machine.
-/
namespace LineShell.Machine

def isEchoOption (word : String) : Bool :=
  match word.toList with
  | '-' :: c :: cs => (c :: cs).all ['n', 'e', 'E'].contains
  | _ => false

/-- Prints its words. Escapes in them are replaced if that is asked for. -/
def echoTool : Tool := fun args run =>
  let options := args.takeWhile isEchoOption
  let letters := options.flatMap String.toList
  let text := " ".intercalate (args.drop options.length)
  let escapes := (letters.filter fun c => c = 'e' || c = 'E').getLast? = some 'e'
  let shown : Printf.Unescaped :=
    if escapes then Printf.unescapeText ⟨true, true, false, true⟩ text.length text.toList
    else ⟨Raw.encode text, false, none⟩
  let last : Bytes := if letters.contains 'n' || shown.stops then [] else [10]
  (0, run.write (shown.bytes ++ last))

def yesTool : Tool := fun args run =>
  let args := if args.head? = some "--" then args.tail else args
  let line := if args.isEmpty then "y\n" else " ".intercalate args ++ "\n"
  (0, run.pour ⟨[], Raw.encode line⟩)

def pwdTool : Tool := fun _ run => (0, run.put (Raw.decode run.cwd ++ "\n"))

def printenvTool : Tool :=
  withOptions "printenv" 2
    { flags := "0", valued := "", long := [("null", '0')], leading := true }
    fun parsed run =>
      let ending := if parsed.has '0' then "\x00" else "\n"
      if parsed.operands.isEmpty then
        (0, run.put (String.join (run.env.map fun (n, v) => n ++ "=" ++ v ++ ending)))
      else
        -- No variable has a name with an equals sign.
        let values := parsed.operands.filterMap fun name =>
          if name.contains '=' then none else run.env.get? name
        (codeOf (values.length == parsed.operands.length),
          run.put (String.join (values.map (· ++ ending))))

/-- The milliseconds of a duration: a number with an optional unit. One without an end is as good as
a thousand years. -/
def duration? (word : String) : Option Nat :=
  let unit? (s : List Char) : Option Nat := match s with
    | [] | ['s'] => some 1000
    | ['m'] => some 60000
    | ['h'] => some 3600000
    | ['d'] => some 86400000
    | _ => none
  let endless : Nat := 365000 * 86400000
  match FloatFormat.double.leading? word.toList with
  | some (.finite negative size, rest) =>
    if negative && size.mantissa ≠ 0 then none
    else (unit? rest).map fun unit => min endless (size.mulNat unit).nearestNat
  | some (.infinite false, rest) => (unit? rest).map fun _ => endless
  | _ => none

/-- The complaint of a tool that has no operand. -/
def missingOperand (tool : String) (run : Run) : Nat × Run :=
  (1, run.complain (withHelp tool (tool ++ ": missing operand")))

def sleepTool : Tool :=
  withOptions "sleep" 1 { flags := "", valued := "", leading := true } fun parsed run =>
    if parsed.operands.isEmpty then missingOperand "sleep" run
    else
      match parsed.operands.filter fun a => (duration? a).isNone with
      | [] => (0, run.sleep ((parsed.operands.filterMap duration?).foldl (· + ·) 0))
      | bad =>
        (1, run.complain (withHelp "sleep"
          ("\n".intercalate (bad.map fun b => "sleep: invalid time interval " ++ quoteText b))))

def baseName (path suffix : String) : String :=
  let s := Text.dropEndWhile (· == '/') path.toList
  if s.isEmpty && !path.isEmpty then "/"
  else
    let name := (s.reverse.takeWhile (· != '/')).reverse
    if suffix.toList.isSuffixOf name && name.length ≠ suffix.length then
      String.ofList (name.take (name.length - suffix.length))
    else String.ofList name

def basenameTool : Tool :=
  withOptions "basename" 1
    { flags := "az"
      valued := "s"
      long := [("multiple", 'a'), ("suffix", 's'), ("zero", 'z')]
      leading := true }
    fun parsed run =>
      let ending := if parsed.has 'z' then "\x00" else "\n"
      let several := parsed.hasAny "as"
      match parsed.operands with
      | [] => missingOperand "basename" run
      | [path, suffix] =>
        if several then
          (0, run.put (String.join (parsed.operands.map fun path =>
            baseName path ((parsed.value? 's').getD "") ++ ending)))
        else (0, run.put (baseName path suffix ++ ending))
      | operands =>
        if several || operands.length = 1 then
          (0, run.put (String.join (operands.map fun path =>
            baseName path ((parsed.value? 's').getD "") ++ ending)))
        else
          (1, run.complain (withHelp "basename"
            ("basename: extra operand " ++ quoteText (operands.getD 2 ""))))

/-- A path without its last part. -/
def dirName (path : String) : String :=
  let s := Text.dropEndWhile (· == '/') path.toList
  let above := Text.dropEndWhile (· == '/') (Text.dropEndWhile (· != '/') s)
  if !above.isEmpty then String.ofList above
  else if path.startsWith "/" then "/"
  else "."

def dirnameTool : Tool :=
  withOptions "dirname" 1
    { flags := "z", valued := "", long := [("zero", 'z')], leading := true }
    fun parsed run =>
      let ending := if parsed.has 'z' then "\x00" else "\n"
      if parsed.operands.isEmpty then missingOperand "dirname" run
      else (0, run.put (String.join (parsed.operands.map fun a => dirName a ++ ending)))

/-- Prints the name of the user. -/
def whoamiTool : Tool := fun _ run => (0, run.put "root\n")

def idTool : Tool :=
  withOptions "id" 1
    { flags := "ugGnrz"
      valued := ""
      long := [("user", 'u'), ("group", 'g'), ("groups", 'G'), ("name", 'n'), ("real", 'r')] }
    fun parsed run =>
      let text :=
        if parsed.hasAny "ugG" then (if parsed.has 'n' then "root" else "0")
        else "uid=0(root) gid=0(root) groups=0(root)"
      (0, run.put (text ++ "\n"))

/-- Prints what kind of machine this is. -/
def unameTool : Tool :=
  withOptions "uname" 1
    { flags := "asnrvmpio"
      valued := ""
      long := [("all", 'a'), ("kernel-name", 's'), ("machine", 'm'), ("operating-system", 'o')] }
    fun parsed run =>
      let parts :=
        (if parsed.has 's' || parsed.options.isEmpty then ["Linux"] else [])
          ++ (if parsed.has 'm' then ["x86_64"] else [])
          ++ if parsed.has 'o' then ["GNU/Linux"] else []
      (0, run.put (" ".intercalate parts ++ "\n"))

/-- Tells that the input is no terminal. -/
def ttyTool : Tool :=
  withOptions "tty" 2 { flags := "s", valued := "", long := [("silent", 's')] } fun parsed run =>
    (1, if parsed.has 's' then run else run.put "not a tty\n")

/-- The prime factors of a number that are not below one. -/
def factorsFrom : Nat → Nat → Nat → List Nat
  | 0, _, n => [n]
  | fuel + 1, p, n =>
    if n ≤ 1 then []
    else if n < p * p then [n]
    else if n % p = 0 then p :: factorsFrom fuel p (n / p)
    else factorsFrom fuel (p + 1) n

def factorTool : Tool := fun args run =>
  let (words, run) :=
    if args.isEmpty then
      let (flow, run) := run.takeInput
      ((Raw.decode flow.known).toList.splitOnP Char.isWhitespace |>.map String.ofList
        |>.filter (· ≠ ""), run)
    else (args, run)
  -- What is printed is gathered, and complaints are not.
  let (shown, code, run) := words.foldl (fun (shown, code, run) word =>
    match word.toNat? with
    | some n =>
      let factors := factorsFrom (n.log2 + n.sqrt + 64) 2 n
      (shown ++ toString n ++ ":" ++ String.join (factors.map fun p => " " ++ toString p) ++ "\n",
        code, run)
    | none =>
      (shown, 1, run.complain ("factor: " ++ quoteText word ++ " is not a valid positive integer")))
    ("", 0, run)
  (code, run.put shown)

end LineShell.Machine
