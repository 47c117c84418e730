import LineShell.Machine.Run
import LineShell.Machine.Tool.Quoting

/-!
# Options of tools

Options are letters after a dash, or words after two dashes. Letters may be run together. Options
may stand anywhere among the operands, and end at two dashes. One that takes a value takes the rest
of its word, what follows an equals sign, or the next word; one that may go without a value does not
take the next word.
-/
namespace LineShell.Machine

structure OptionTable where
  /-- The letters of options without a value. -/
  flags : String
  /-- The letters of options with a value. -/
  valued : String
  /-- The letters of options that may have a value. -/
  optional : String := ""
  /-- The words for options, with the letters that they stand for. -/
  long : List (String × Char) := []
  /-- Whether options end at the first operand. -/
  leading : Bool := false

/-- What the words of a command line say: its options with their values, and its operands. -/
structure Parsed where
  options : List (Char × String)
  operands : List String
  deriving Repr, DecidableEq

namespace Parsed

def has (parsed : Parsed) (letter : Char) : Bool :=
  parsed.options.any (·.1 == letter)

def hasAny (parsed : Parsed) (letters : String) : Bool :=
  letters.toList.any parsed.has

def value? (parsed : Parsed) (letter : Char) : Option String :=
  parsed.options.reverse.lookup letter

def values (parsed : Parsed) (letter : Char) : List String :=
  (parsed.options.filter (·.1 == letter)).map (·.2)

/-- The last value that was given for an option, as a number. -/
def number? (parsed : Parsed) (letter : Char) : Option Nat :=
  (parsed.value? letter).bind String.toNat?

end Parsed

/-- Why the words of a command line cannot be read. -/
inductive OptionError where
  | unknown (letter : Char)
  | unknownWord (word : String)
  | ambiguous (word : String)
  | missingValue (letter : Char)
  | missingWordValue (word : String)
  | needlessValue (word : String)

def OptionError.message (tool : String) : OptionError → String
  | .unknown letter => tool ++ ": invalid option -- '" ++ letter.toString ++ "'"
  | .unknownWord word => tool ++ ": unrecognized option '" ++ word ++ "'"
  | .ambiguous word => tool ++ ": option '" ++ word ++ "' is ambiguous"
  | .missingValue letter =>
    tool ++ ": option requires an argument -- '" ++ letter.toString ++ "'"
  | .missingWordValue word => tool ++ ": option '" ++ word ++ "' requires an argument"
  | .needlessValue word => tool ++ ": option '" ++ word ++ "' doesn't allow an argument"

/-- The options that a word runs together; the letter at the end is one that takes the next word as
its value. -/
def optionLetters (table : OptionTable) :
    List Char → Except OptionError (List (Char × String) × Option Char)
  | [] => .ok ([], none)
  | c :: cs =>
    if table.valued.contains c then
      if cs.isEmpty then .ok ([], some c) else .ok ([(c, String.ofList cs)], none)
    else if table.optional.contains c then .ok ([(c, String.ofList cs)], none)
    else if table.flags.contains c then
      (optionLetters table cs).map fun (found, pending) => ((c, "") :: found, pending)
    else .error (.unknown c)

/-- The option that a word after two dashes stands for. It may be cut short where no other option
begins like it. -/
def optionWord (table : OptionTable) (name : String) : Except OptionError (String × Char) :=
  let shown := "--" ++ name
  match table.long.find? (·.1 == name) with
  | some option => .ok option
  | none =>
    let starting := table.long.filter (·.1.startsWith name)
    match starting, (starting.map (·.2)).eraseDups with
    | option :: _, [_] => .ok option
    | [], _ => .error (.unknownWord shown)
    | _, _ => .error (.ambiguous shown)

def parseOptions (table : OptionTable) : List String → Except OptionError Parsed
  | [] => .ok ⟨[], []⟩
  | "--" :: rest => .ok ⟨[], rest⟩
  | word :: rest =>
    let withMore (found : List (Char × String)) (more : Except OptionError Parsed) :
        Except OptionError Parsed :=
      more.map fun p => { p with options := found ++ p.options }
    match word.toList with
    | '-' :: '-' :: text =>
      let name := text.takeWhile (· != '=')
      match optionWord table (String.ofList name) with
      | .error (.unknownWord _) => .error (.unknownWord word)
      | .error e => .error e
      | .ok (full, letter) =>
        match text.drop name.length with
        | _ :: value =>
          if table.valued.contains letter || table.optional.contains letter then
            withMore [(letter, String.ofList value)] (parseOptions table rest)
          else .error (.needlessValue ("--" ++ full))
        | [] =>
          if table.valued.contains letter then
            match rest with
            | [] => .error (.missingWordValue ("--" ++ full))
            | value :: rest => withMore [(letter, value)] (parseOptions table rest)
          else withMore [(letter, "")] (parseOptions table rest)
    | '-' :: c :: cs =>
      match optionLetters table (c :: cs) with
      | .error e => .error e
      | .ok (found, none) => withMore found (parseOptions table rest)
      | .ok (found, some letter) =>
        match rest with
        | [] => .error (.missingValue letter)
        | value :: rest => withMore (found ++ [(letter, value)]) (parseOptions table rest)
    | _ =>
      if table.leading then .ok ⟨[], word :: rest⟩
      else (parseOptions table rest).map fun p => { p with operands := word :: p.operands }

/-- The complaint of a tool, with a pointer to its help. -/
def withHelp (tool complaint : String) : String :=
  complaint ++ "\nTry '" ++ tool ++ " --help' for more information."

/-- The choice that a word, which may be cut short, stands for. Choices of one group mean the same. -/
def choice (tool option : String) (groups : List (List (String × α))) (word : String) :
    Except String α :=
  let told (problem : String) : String :=
    let group (choices : List (String × α)) : String :=
      "\n  - " ++ ", ".intercalate (choices.map fun c => quoteText c.1)
    withHelp tool (tool ++ ": " ++ problem ++ " argument " ++ quoteText word ++ " for "
      ++ quoteText option ++ "\nValid arguments are:" ++ String.join (groups.map group))
  match groups.flatten.find? (·.1 == word), groups.filter (·.any (·.1.startsWith word)) with
  | some (_, found), _ => .ok found
  | none, [(_, found) :: _] => .ok found
  | none, [] => .error (told "invalid")
  | none, _ => .error (told "ambiguous")

/-- The number that a word is, if it lies within bounds, or the end of a complaint of it. -/
def boundedNumber (low high : Nat) (word : String) : Except String Nat :=
  let text := (word.toList.dropWhile (·.isWhitespace)).dropWhile (· == '+')
  if text.isEmpty || !text.all Char.isDigit then .error (quoteText word)
  else
    let n := text.foldl (fun n c => n * 10 + (c.toNat - 48)) 0
    if n < low then .error (quoteText word ++ ": Numerical result out of range")
    else if high < n then .error (quoteText word ++ ": Value too large for defined data type")
    else .ok n

/-- Runs a tool on what its words say; words that cannot be read end it with an error code. -/
def withOptions (tool : String) (errorCode : Nat) (table : OptionTable)
    (run : Parsed → Run → Nat × Run) : Tool := fun args state =>
  match parseOptions table args with
  | .ok parsed => run parsed state
  | .error e => (errorCode, state.complain (withHelp tool (e.message tool)))

/-- Goes through operands and what each of them holds, or why it cannot be read; a dash stands for
the standard input. -/
def foldOperands (use : String → Except IoError Flow → σ → Run → σ × Run) :
    List String → σ → Run → σ × Run
  | [], state, run => (state, run)
  | name :: rest, state, run =>
    let (held, run) :=
      if name = "-" || name = "/dev/stdin" then
        let (flow, run) := run.takeInput
        (.ok flow, run)
      else ((run.read name).map .ofBytes, run)
    let (state, run) := use name held state run
    foldOperands use rest state run

/-- Writes what becomes of each operand. Those that cannot be read are complained of. -/
def writeOperands (complaint : String → IoError → String) (f : Flow → Flow)
    (operands : List String) (run : Run) : Nat × Run :=
  foldOperands (fun name held code run =>
    match held with
    | .ok flow => (code, run.pour (f flow))
    | .error e => (1, run.complain (complaint name e))) operands 0 run

/-- What the operands of a tool hold, one after the other; a dash stands for the standard input.
Files that cannot be read are complained of. -/
def readOperands (complaint : String → IoError → String) :
    List String → Run → List (String × Flow) × Bool × Run
  | [], run => ([], true, run)
  | name :: rest, run =>
    if name = "-" || name = "/dev/stdin" then
      let (flow, run) := run.takeInput
      let (others, ok, run) := readOperands complaint rest run
      ((name, flow) :: others, ok, run)
    else
      match run.read name with
      | .ok bytes =>
        let (others, ok, run) := readOperands complaint rest run
        ((name, .ofBytes bytes) :: others, ok, run)
      | .error e =>
        let (others, _, run) := readOperands complaint rest (run.complain (complaint name e))
        (others, false, run)

/-- The operands, or the standard input if there are none. -/
def operandsOrInput (operands : List String) : List String :=
  if operands.isEmpty then ["-"] else operands

/-- All bytes that flows hold. -/
def joinFlows (flows : List (String × Flow)) : Flow :=
  flows.foldl (fun all next => all.append next.2) .empty

/-- The code of a tool that went well, or did not. -/
def codeOf (ok : Bool) : Nat :=
  if ok then 0 else 1

/-- How a tool complains of something that went wrong with a file. -/
def complainOf (tool : String) (name : String) (e : IoError) : String :=
  tool ++ ": " ++ name ++ ": " ++ plainMessage e

/-- How a tool complains of an operand that it cannot open. -/
def cannotOpen (tool : String) (name : String) (e : IoError) : String :=
  complainOf tool (quoteLabel name) e

/-- How a tool complains of an operand that it cannot open or read, with the name in quotes. -/
def cannotOpenQuoted (tool : String) (name : String) (e : IoError) : String :=
  if e = .os .isDirectory then tool ++ ": error reading " ++ quoteName name ++ ": " ++ plainMessage e
  else tool ++ ": cannot open " ++ quoteName name ++ " for reading: " ++ plainMessage e

end LineShell.Machine
