import LineShell.Machine.Tool.Wrap

/-!
# Building command lines

A program is run with arguments that come from the input.
-/
namespace LineShell.Machine

namespace Arguments

/-- The quote that is not closed in a line. -/
inductive QuoteFault where
  | single
  | double

/-- The words of a text, where quotes and backslashes protect blanks; `begun` is the word so far, in
reverse. If blanks do not separate words, only the ends of lines do. -/
def quotedWords (atBlanks : Bool) :
    Option Char → Option (List Char) → List Char → Except QuoteFault (List String)
  | some quote, _, [] => .error (if quote = '"' then .double else .single)
  | none, none, [] => .ok []
  | none, some word, [] => .ok [String.ofList word.reverse]
  | some quote, word, c :: cs =>
    if c = quote then quotedWords atBlanks none (some (word.getD [])) cs
    else if c = '\n' then .error (if quote = '"' then .double else .single)
    else quotedWords atBlanks (some quote) (some (c :: word.getD [])) cs
  | none, word, '\\' :: c :: cs => quotedWords atBlanks none (some (c :: word.getD [])) cs
  | none, word, c :: cs =>
    let blank := c == ' ' || c == '\t'
    if c = '\n' || (blank && (atBlanks || word.isNone)) then
      match word with
      | some word => (quotedWords atBlanks none none cs).map (String.ofList word.reverse :: ·)
      | none => quotedWords atBlanks none none cs
    else if c = '\'' || c = '"' then quotedWords atBlanks (some c) (some (word.getD [])) cs
    else quotedWords atBlanks none (some (c :: word.getD [])) cs

/-- Pieces of a list, of a length. -/
def piecesOf (count : Nat) (items : List α) : List (List α) :=
  if _h : count = 0 ∨ items = [] then []
  else items.take count :: piecesOf count (items.drop count)
termination_by items.length
decreasing_by
  rw [not_or] at _h
  have := List.length_pos_iff.mpr _h.2
  simp only [List.length_drop]
  omega

/-- Lines, where one that ends in a blank goes on in the next. -/
def joinContinued : List (List Char) → List (List Char)
  | a :: b :: rest =>
    if a.getLast?.any fun c => c == ' ' || c == '\t' then joinContinued ((a ++ b) :: rest)
    else a :: joinContinued (b :: rest)
  | lines => lines
termination_by lines => lines.length

def separator? (word : String) : Option UInt8 :=
  match word.toList with
  | ['\\', 'n'] => some 10
  | ['\\', 't'] => some 9
  | ['\\', '0'] => some 0
  | ['\\', '\\'] => some 92
  | _ => (Raw.encode word).head?

/-- The command lines for an input. -/
def batches (parsed : Parsed) (bytes : Bytes) : Except QuoteFault (List (List String)) := do
  let words := if parsed.operands.isEmpty then ["echo"] else parsed.operands
  let text := (Raw.decode bytes).toList
  let separator := if parsed.has '0' then some 0 else (parsed.value? 'd').bind separator?
  let mark := if parsed.has 'i' then some "\x7b\x7d" else parsed.value? 'I'
  let upToEnd (items : List String) : List String := match parsed.value? 'E' with
    | some last => if last = "" then items else items.takeWhile (· != last)
    | none => items
  let items ← match separator with
    | some b => pure ((piecesBy b bytes).map Raw.decode)
    | none => upToEnd <$> quotedWords mark.isNone none none text
  -- Of a mark and a count, the one that was given last counts.
  let last := ((parsed.options.map (·.1)).filter fun c => "iIn".contains c).getLast?
  match if last = some 'n' then none else mark with
  | some mark =>
    return items.map fun item => words.map fun w =>
      if mark = "" then w else item.intercalate (w.splitOn mark)
  | none =>
    match if parsed.has 'l' then some 1 else parsed.number? 'L' with
    | some count =>
      let lines := (text.splitOn '\n').filter fun l => l.any (!·.isWhitespace)
      let lines ← (joinContinued lines).mapM (quotedWords true none none)
      return (piecesOf count lines).map fun piece => words ++ piece.flatten
    | none =>
      if items.isEmpty then return if parsed.has 'r' then [] else [words]
      match parsed.number? 'n' with
      | some count => return (piecesOf count items).map (words ++ ·)
      | none => return [words ++ items]

/-- Runs command lines one after the other, as far as one that could not be run. -/
def runAll (launch : Launch) (tracing : Bool) : List (List String) → Nat → Run → Nat × Run
  | [], status, run => (status, run)
  | batch :: rest, status, run =>
    let run := if tracing then run.complain (" ".intercalate batch) else run
    let name := batch.headD ""
    let (code, run) := launch "xargs" batch { run with input := .empty, killedBy := none }
    match run.killedBy with
    | some signal =>
      (125, { run with killedBy := none }.complain
        ("xargs: " ++ name ++ ": terminated by signal " ++ toString signal))
    | none =>
      if code = 126 || code = 127 then (code, run)
      else if code = 255 then
        (124, run.complain ("xargs: " ++ name ++ ": exited with status 255; aborting"))
      else runAll launch tracing rest (if code = 0 then status else 123) run

end Arguments

/-- The options of the tool that builds command lines. -/
def xargsTable : OptionTable where
  flags := "0rtpxoil"
  valued := "nIdLPsEea"
  long := [("null", '0'), ("no-run-if-empty", 'r'), ("verbose", 't'), ("exit", 'x'),
    ("max-args", 'n'), ("delimiter", 'd'), ("max-lines", 'L'), ("max-procs", 'P'),
    ("max-chars", 's'), ("arg-file", 'a'), ("replace", 'I')]
  leading := true

/-- Runs a program with arguments from the input. -/
def xargsTool (launch : Launch) : Tool :=
  withOptions "xargs" 1 xargsTable fun parsed run =>
    let bad := ['n', 'L'].findSome? fun c =>
      match parsed.value? c with
      | none => none
      | some word =>
        match word.toInt? with
        | none => some ("xargs: invalid number \"" ++ word ++ "\" for -" ++ c.toString ++ " option")
        | some n =>
          if n < 1 then
            some ("xargs: value " ++ word ++ " for -" ++ c.toString ++ " option should be >= 1")
          else none
    match bad, parsed.value? 'a' with
    | some complaint, _ => (1, run.complain (withHelp "xargs" complaint))
    | none, file =>
      let (input, run) : Except IoError Bytes × Run := match file with
        | none =>
          let (flow, run) := run.takeInput
          (.ok flow.known, run)
        | some name => (run.read name, run)
      match input with
      | .error e =>
        (1, run.complain ("xargs: Cannot open input file '" ++ file.getD "" ++ "': "
          ++ plainMessage e))
      | .ok bytes =>
        match Arguments.batches parsed bytes with
        | .error fault =>
          let kind := match fault with
            | .single => "single"
            | .double => "double"
          (1, run.complain ("xargs: unmatched " ++ kind
            ++ " quote; by default quotes are special to xargs unless you use the -0 option"))
        | .ok batches => Arguments.runAll launch (parsed.has 't') batches 0 run

end LineShell.Machine
