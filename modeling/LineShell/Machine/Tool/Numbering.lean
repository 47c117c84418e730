import LineShell.Machine.Tool.Lines
import LineShell.Machine.Tool.Match
import LineShell.Machine.Tool.Numeral

/-!
# Numbering lines

A file has pages of a header, a body and a footer, which lines of marks begin. Each of the three has
a style that tells which of its lines get a number.
-/
namespace LineShell.Machine

namespace Numbering

/-- Which lines get a number. -/
inductive Style where
  | all
  | text
  | none
  | matching (pattern : Pattern)

/-- The style that a word stands for: its first letter tells. -/
def Style.ofWord (word : String) : Except String (Option Style) :=
  match word.toList with
  | 'a' :: _ => .ok (some .all)
  | 't' :: _ => .ok (some .text)
  | 'n' :: _ => .ok (some .none)
  | 'p' :: cs =>
    match Pattern.parse {} (Raw.encode (String.ofList cs)) with
    | .ok pattern => .ok (some (.matching pattern))
    | .error fault => .error fault.message
  | _ => .ok Option.none

/-- The parts of a page. -/
inductive Part where
  | header
  | body
  | footer

/-- How lines are numbered. -/
structure Layout where
  style : Part → Style
  /-- The text of a number. -/
  text : Int → String
  width : Nat
  separator : String
  start : Int
  step : Int
  /-- How many empty lines in a row count as one. -/
  joined : Nat
  /-- Whether numbers go on from page to page. -/
  goesOn : Bool
  /-- The mark that lines which begin a part are made of. -/
  mark : Bytes

/-- What is left to remember between lines. -/
structure State where
  part : Part
  next : Int
  /-- The number of empty lines in a row. -/
  empty : Nat

def Layout.begun? (layout : Layout) (line : Bytes) : Option Part :=
  let mark := layout.mark
  if mark.isEmpty then none
  else if line = mark ++ mark ++ mark then some .header
  else if line = mark ++ mark then some .body
  else if line = mark then some .footer
  else none

/-- Whether a line gets a number, and how many empty lines in a row there are then. -/
def Layout.counts (layout : Layout) (state : State) (line : Bytes) : Bool × Nat :=
  match layout.style state.part with
  | .all =>
    if layout.joined ≤ 1 then (true, state.empty)
    else if !line.isEmpty || state.empty = layout.joined then (true, 1)
    else (false, state.empty + 1)
  | .text => (!line.isEmpty, state.empty)
  | .none => (false, state.empty)
  | .matching pattern => ((pattern.find? false line.toArray (fun _ _ => true) 0).isSome, state.empty)

/-- A line with its number, or as much room as a number takes. -/
def Layout.line (layout : Layout) (state : State) (line : Bytes) : Bytes × State :=
  match layout.begun? line with
  | some part =>
    ([], { state with part, next := if layout.goesOn then state.next else layout.start })
  | none =>
    let (counts, empty) := layout.counts state line
    if counts then
      (Raw.encode (layout.text state.next ++ layout.separator) ++ line,
        { state with next := state.next + layout.step, empty })
    else
      (List.replicate (layout.width + layout.separator.utf8ByteSize) 32 ++ line,
        { state with empty })

def Layout.lines (layout : Layout) : State → List Bytes → List Bytes × State
  | state, [] => ([], state)
  | state, line :: rest =>
    let (shown, state) := layout.line state line
    let (more, state) := layout.lines state rest
    (shown :: more, state)

def numberText (format : String) (width : Nat) (n : Int) : String :=
  let digits := toString n
  let room := width - digits.length
  match format with
  | "ln" => digits ++ "".pushn ' ' room
  | "rz" =>
    if n < 0 then "-" ++ "".pushn '0' room ++ toString n.natAbs else "".pushn '0' room ++ digits
  | _ => "".pushn ' ' room ++ digits

def table : OptionTable where
  flags := "p"
  valued := "bfhnwsvild"
  long := [("body-numbering", 'b'), ("footer-numbering", 'f'), ("header-numbering", 'h'),
    ("number-format", 'n'), ("number-width", 'w'), ("number-separator", 's'),
    ("starting-line-number", 'v'), ("line-increment", 'i'), ("no-renumber", 'p'),
    ("join-blank-lines", 'l'), ("section-delimiter", 'd')]

/-- The style that an option gives, or the one that there is without it. -/
def styleFor (parsed : Parsed) (letter : Char) (name : String) (default : Style) :
    Except String Style :=
  match parsed.value? letter with
  | none => .ok default
  | some word =>
    match Style.ofWord word with
    | .ok (some style) => .ok style
    | .ok none =>
      .error (withHelp "nl" ("nl: invalid " ++ name ++ " numbering style: " ++ quoteText word))
    | .error fault => .error ("nl: " ++ fault)

/-- The integer that an option gives. -/
def integerFor (parsed : Parsed) (letter : Char) (name : String) : Except String Int :=
  match parsed.value? letter with
  | none => .ok 1
  | some word =>
    match integer? word with
    | some n => .ok n
    | none => .error ("nl: invalid " ++ name ++ ": " ++ quoteText word)

/-- The number that an option gives, which is not zero. -/
def numberFor (parsed : Parsed) (letter : Char) (name : String) (default : Nat) :
    Except String Nat :=
  match parsed.value? letter with
  | none => .ok default
  | some word =>
    (boundedNumber 1 (Nat.pow 2 31 - 1) word).mapError fun complaint =>
      "nl: invalid " ++ name ++ ": " ++ complaint

/-- The layout that the words of the numbering tool ask for. -/
def Layout.ofParsed (parsed : Parsed) : Except String Layout := do
  let header ← styleFor parsed 'h' "header" .none
  let body ← styleFor parsed 'b' "body" .text
  let footer ← styleFor parsed 'f' "footer" .none
  let start ← integerFor parsed 'v' "starting line number"
  let step ← integerFor parsed 'i' "line number increment"
  let joined ← numberFor parsed 'l' "line number of blank lines" 1
  let width ← numberFor parsed 'w' "line number field width" 6
  let format := (parsed.value? 'n').getD "rn"
  if !(["ln", "rn", "rz"].contains format) then
    throw (withHelp "nl" ("nl: invalid line numbering format: " ++ quoteText format))
  let style : Part → Style := fun
    | .header => header
    | .body => body
    | .footer => footer
  let mark : Bytes := match (parsed.value? 'd').map Raw.encode with
    | none => [92, 58]
    | some [b] => [b, 58]
    | some mark => mark
  return ⟨style, numberText format width, width, (parsed.value? 's').getD "\t", start, step, joined,
    parsed.has 'p', mark⟩

end Numbering

/-- Numbers lines, those of the body that are not empty unless told otherwise. -/
def nlTool : Tool :=
  withOptions "nl" 1 Numbering.table fun parsed run =>
    match Numbering.Layout.ofParsed parsed with
    | .error complaint => (1, run.complain complaint)
    | .ok layout =>
      let ((code, _), run) := foldOperands (fun name held (code, state) run =>
        match held with
        | .ok flow =>
          let (lines, state) := layout.lines state (linesOf flow.known)
          ((code, state), run.write (joinLines lines))
        | .error e => ((1, state), run.complain (cannotOpen "nl" name e)))
        (operandsOrInput parsed.operands) ((0, ⟨.body, layout.start, 1⟩) : Nat × Numbering.State) run
      (code, run)

end LineShell.Machine
