import LineShell.Machine.Tool.Order

/-!
# Columns of lines

Tools that take columns of lines, put lines side by side, and break lines.
-/
namespace LineShell.Machine

/-- Numbers from one to another, or to the end. -/
abbrev NumberRange := Nat × Option Nat

/-- Why a list of ranges cannot be read. -/
inductive RangeError where
  | zero
  | invalid (text : String)
  | tooLarge (text : String)
  | decreasing
  | noEndpoint
  | twoDashes

/-- A range that is being read: the digits before its dash, and those after it if there is one. -/
structure RangeDraft where
  low : List Char
  high : Option (List Char)

def RangeDraft.range (draft : RangeDraft) : Except RangeError NumberRange :=
  let low := draft.low.foldl (fun n c => n * 10 + (c.toNat - 48)) 0
  match draft.high with
  | none => if low = 0 then .error .zero else .ok (low, some low)
  | some [] => if draft.low.isEmpty then .error .noEndpoint else .ok (low, none)
  | some digits =>
    let low := if draft.low.isEmpty then 1 else low
    let high := digits.foldl (fun n c => n * 10 + (c.toNat - 48)) 0
    if high < low then .error .decreasing else .ok (low, some high)

/-- The ranges that a text lists after a draft. Commas and blanks stand between ranges. -/
def rangesAfter (draft : RangeDraft) : List Char → Except RangeError (List NumberRange)
  | [] => draft.range.map fun range => [range]
  | c :: cs =>
    if c = '-' then
      if draft.high.isSome then .error .twoDashes
      else if !draft.low.isEmpty && draft.low.all (· == '0') then .error .zero
      else rangesAfter { draft with high := some [] } cs
    else if c = ',' || c = ' ' || c = '\t' then do
      let range ← draft.range
      return range :: (← rangesAfter ⟨[], none⟩ cs)
    else if !c.isDigit then .error (.invalid (String.ofList (c :: cs)))
    else
      let digits := draft.high.getD draft.low ++ [c]
      if Nat.pow 2 64 - 2 < digits.foldl (fun n c => n * 10 + (c.toNat - 48)) 0 then
        .error (.tooLarge (String.ofList (digits ++ cs.takeWhile Char.isDigit)))
      else if draft.high.isSome then rangesAfter { draft with high := some digits } cs
      else rangesAfter { draft with low := digits } cs

/-- Ranges in order, those that overlap made one. -/
def mergeRanges : List NumberRange → List NumberRange
  | [] => []
  | (low, high) :: rest =>
    match mergeRanges rest with
    | (low', high') :: others =>
      if high.all (low' ≤ ·) then
        let top := match high, high' with
          | some a, some b => some (max a b)
          | _, _ => none
        (low, top) :: others
      else (low, high) :: (low', high') :: others
    | [] => [(low, high)]

/-- The ranges of the numbers from `next` on that lie between ordered ranges. -/
def complementRanges : Nat → List NumberRange → List NumberRange
  | next, [] => [(next, none)]
  | next, (low, high) :: rest =>
    let gap : List NumberRange := if next < low then [(next, some (low - 1))] else []
    match high with
    | none => gap
    | some high => gap ++ complementRanges (high + 1) rest

def numberRanges (word : String) : Except RangeError (List NumberRange) :=
  (rangesAfter ⟨[], none⟩ word.toList).map fun ranges =>
    mergeRanges (ranges.mergeSort fun a b => decide (a.1 ≤ b.1))

/-- The items whose numbers lie in ranges, those of each range together. -/
def selectRanges (ranges : List NumberRange) (items : List α) : List (List α) :=
  (ranges.map fun (low, high) =>
    let from' := items.drop (low - 1)
    match high with
    | some high => from'.take (high + 1 - low)
    | none => from').filter (!·.isEmpty)

def cutTable : OptionTable where
  flags := "nsz"
  valued := "bcfdO"
  long := [("bytes", 'b'), ("characters", 'c'), ("fields", 'f'), ("delimiter", 'd'),
    ("only-delimited", 's'), ("zero-terminated", 'z'), ("output-delimiter", 'O'),
    ("complement", '!')]

/-- What the words of the cutting tool ask for: the kind of column, the list, and the byte between
fields. -/
def cutRequest (parsed : Parsed) : Except String (Char × List NumberRange × UInt8) :=
  let lists := parsed.options.filter fun o => "bcf".contains o.1
  let delimiter := Raw.encode ((parsed.value? 'd').getD "\t")
  -- The first option that is wrong is complained of.
  let firstWrong := parsed.options.findIdx? fun (letter, value) =>
    letter = 'd' && 1 < (Raw.encode value).length
  let before := parsed.options.take (firstWrong.getD parsed.options.length)
  if firstWrong.isSome && (before.countP fun o => "bcf".contains o.1) < 2 then
    .error (withHelp "cut" "cut: the delimiter must be a single character") else
  match lists with
  | [] => .error (withHelp "cut" "cut: you must specify a list of bytes, characters, or fields")
  | [(kind, list)] =>
    let inFields := kind == 'f'
    if !inFields && (parsed.value? 'd').isSome then
      .error (withHelp "cut"
        "cut: an input delimiter may be specified only when operating on fields")
    else if !inFields && parsed.has 's' then
      .error (withHelp "cut"
        "cut: suppressing non-delimited lines makes sense\n\tonly when operating on fields")
    else
      match numberRanges list with
      | .ok ranges =>
        let ranges := if parsed.has '!' then complementRanges 1 ranges else ranges
        .ok (kind, ranges, delimiter.headD 0)
      | .error e =>
        let complaint := match e with
          | .zero =>
            if inFields then "fields are numbered from 1"
            else "byte/character positions are numbered from 1"
          | .invalid text =>
            (if inFields then "invalid field value " else "invalid byte/character position ")
              ++ quoteText text
          | .tooLarge text =>
            (if inFields then "field number " else "byte/character offset ") ++ quoteText text
              ++ " is too large"
          | .twoDashes =>
            if inFields then "invalid field range" else "invalid byte or character range"
          | .decreasing => "invalid decreasing range"
          | .noEndpoint => "invalid range with no endpoint: -"
        .error (withHelp "cut" ("cut: " ++ complaint))
  | _ => .error (withHelp "cut" "cut: only one list may be specified")

/-- Shows columns of lines. -/
def cutTool : Tool :=
  withOptions "cut" 1 cutTable fun parsed run =>
    match cutRequest parsed with
    | .error complaint => (1, run.complain complaint)
    | .ok (kind, ranges, delimiter) =>
      let ending : UInt8 := if parsed.has 'z' then 0 else 10
      let between := (parsed.value? 'O').map fun word =>
        if word = "" then [0] else Raw.encode word
      let column (line : Bytes) : Option Bytes :=
        if kind = 'f' then
          let fields := line.splitOn delimiter
          if fields.length = 1 then (if parsed.has 's' then none else some line)
          else
            some ((between.getD [delimiter]).intercalate (selectRanges ranges fields).flatten)
        else some ((between.getD []).intercalate (selectRanges ranges line))
      let columns (bytes : Bytes) : Bytes :=
        endBy ending ((piecesBy ending bytes).filterMap column)
      writeOperands (cannotOpen "cut") (onBytes columns) (operandsOrInput parsed.operands) run

/-- The separators that a word lists, each as its bytes, unless it ends in a lone backslash. -/
def separators? : List Char → Option (List Bytes)
  | [] => some []
  | ['\\'] => none
  | '\\' :: c :: cs =>
    let bytes : Bytes := match c with
      | '0' => []
      | 'b' => [8]
      | 'f' => [12]
      | 'n' => [10]
      | 'r' => [13]
      | 't' => [9]
      | 'v' => [11]
      | c => Raw.encode c.toString
    (separators? cs).map (bytes :: ·)
  | c :: cs => (separators? cs).map ((Raw.encode c.toString).map ([·]) ++ ·)

/-- Pieces with separators between them, which are used in turn. -/
def joinInTurn (separators : List Bytes) (pieces : List Bytes) : Bytes :=
  let count := max separators.length 1
  pieces.zipIdx.flatMap fun (piece, i) =>
    if i = 0 then piece else separators.getD ((i - 1) % count) [] ++ piece

/-- One line of each source, taken from what is left of the files. -/
def takeRow (files : List (List Bytes)) : List Nat → List (Option Bytes) × List (List Bytes)
  | [] => ([], files)
  | source :: sources =>
    let lines := files.getD source []
    let (row, files) := takeRow (files.set source lines.tail) sources
    (lines.head? :: row, files)

/-- The rows of lines side by side, up to the first one that has none. -/
def pasteRows (sources : List Nat) : Nat → List (List Bytes) → List (List Bytes)
  | 0, _ => []
  | fuel + 1, files =>
    let (row, files) := takeRow files sources
    if row.all Option.isNone then [] else row.map (·.getD []) :: pasteRows sources fuel files

/-- Puts lines of files side by side, or the lines of each file. -/
def pasteTool : Tool :=
  withOptions "paste" 1
    { flags := "sz"
      valued := "d"
      long := [("serial", 's'), ("delimiters", 'd'), ("zero-terminated", 'z')] }
    fun parsed run =>
      let operands := operandsOrInput parsed.operands
      let ending : UInt8 := if parsed.has 'z' then 0 else 10
      let word := (parsed.value? 'd').getD "\t"
      match separators? word.toList with
      | none =>
        (1, run.complain ("paste: delimiter list ends with an unescaped backslash: " ++ word))
      | some separators =>
        if parsed.has 's' then
          let serial (flow : Flow) : Flow :=
            .ofBytes (joinInTurn separators (piecesBy ending flow.known) ++ [ending])
          writeOperands (cannotOpen "paste") serial operands run
        else
          let readable (name : String) : Bool := name = "-" || (run.read name).isOk
          let opened := operands.take ((operands.findIdx fun name => !readable name) + 1)
          let (flows, ok, run) := readOperands (cannotOpen "paste") opened run
          let files := flows.map fun (_, flow) => piecesBy ending flow.known
          if !ok then (1, run)
          else
            let input := (flows.findIdx? (·.1 == "-")).getD 0
            let sources := flows.zipIdx.map fun ((name, _), i) => if name = "-" then input else i
            let rows := pasteRows sources (files.flatten.length + 1) files
            (0, run.write (endBy ending (rows.map (joinInTurn separators))))

/-- The column that a byte leads to. -/
def nextColumn (inBytes : Bool) (column : Nat) (b : UInt8) : Nat :=
  if inBytes then column + 1
  else if b = 8 then column - 1
  else if b = 13 then 0
  else if b = 9 then (column / 8 + 1) * 8
  else column + 1

/-- Breaks a line where it gets too wide. `begun` is the current piece, in reverse. -/
def foldLine (width : Nat) (inBytes atBlanks : Bool) : Nat → Bytes → Bytes → Bytes
  | 0, begun, line => begun.reverse ++ line
  | _, begun, [] => begun.reverse
  | fuel + 1, begun, b :: rest =>
    let columnOf (piece : Bytes) : Nat := piece.foldl (nextColumn inBytes) 0
    if width < columnOf (b :: begun).reverse then
      let tail := begun.takeWhile (!isBlankByte ·)
      if atBlanks && tail.length < begun.length then
        (begun.drop tail.length).reverse ++ [10]
          ++ foldLine width inBytes atBlanks fuel tail (b :: rest)
      else if begun.isEmpty then foldLine width inBytes atBlanks fuel [b] rest
      else begun.reverse ++ [10] ++ foldLine width inBytes atBlanks fuel [] (b :: rest)
    else foldLine width inBytes atBlanks fuel (b :: begun) rest

/-- The words of a command line with an old-style width such as `-20` made an option. -/
def modernWidth (args : List String) : List String :=
  match args with
  | first :: rest =>
    match first.toList with
    | '-' :: c :: cs =>
      if (c :: cs).all Char.isDigit then "-w" :: String.ofList (c :: cs) :: rest else args
    | _ => args
  | [] => args

/-- Breaks lines that are too wide. -/
def foldTool : Tool := fun args run =>
  withOptions "fold" 1
    { flags := "bs", valued := "w", long := [("bytes", 'b'), ("spaces", 's'), ("width", 'w')] }
    (fun parsed run =>
      let width := (parsed.value? 'w').elim (.ok 80) (boundedNumber 1 (Nat.pow 2 64 - 10))
      match width with
      | .error complaint => (1, run.complain ("fold: invalid number of columns: " ++ complaint))
      | .ok width =>
        let line (s : Bytes) : Bytes :=
          foldLine width (parsed.has 'b') (parsed.has 's') (2 * s.length + 1) [] s
        writeOperands (cannotOpen "fold") (onBytes (mapLines (·.map line)))
          (operandsOrInput parsed.operands) run)
    (modernWidth args) run

end LineShell.Machine
