import LineShell.Machine.Tool.Options

/-!
# Tools that pass lines on

What these tools read are their operands or the standard input.
-/
namespace LineShell.Machine

/-- A number at the right end of a field. -/
def padNumber (width n : Nat) : String :=
  "".pushn ' ' (width - (toString n).length) ++ toString n

/-- Bytes with every line changed; a last line without a line feed stays without. -/
def mapLines (f : List Bytes → List Bytes) (bytes : Bytes) : Bytes :=
  let result := joinLines (f (linesOf bytes))
  if bytes.getLast? = some 10 || bytes.isEmpty then result else result.dropLast

/-- How a byte is shown where all bytes are to be seen; a tab and a line feed stand as they are. -/
def visibleByte (b : UInt8) : Bytes :=
  let low (b : UInt8) : Bytes :=
    if b < 32 then [94, b + 64] else if b = 127 then [94, 63] else [b]
  if b = 9 || b = 10 then [b] else if b < 128 then low b else [77, 45] ++ low (b - 128)

/-- How joined files are shown. -/
structure JoinedStyle where
  /-- Whether lines are numbered, and whether empty ones are. -/
  numbered : Bool
  emptyNumbered : Bool
  /-- Whether only one of several empty lines in a row is shown. -/
  squeezed : Bool
  /-- Whether the ends of lines are to be seen, tabs, and all other bytes. -/
  endsShown : Bool
  tabsShown : Bool
  allShown : Bool

/-- Where joined files have come to. -/
structure JoinedState where
  /-- The number of the next line. -/
  number : Nat := 1
  atLineStart : Bool := true
  /-- Whether the line before was empty. -/
  afterEmpty : Bool := false
  /-- Whether a carriage return is held back, which is shown otherwise before a line feed. -/
  returned : Bool := false

/-- Shows the next byte of joined files. -/
def JoinedStyle.step (style : JoinedStyle) (state : JoinedState) (b : UInt8) :
    Bytes × JoinedState :=
  let held : Bytes := if state.returned then (if b = 10 then [94, 77] else [13]) else []
  let isEmpty := b = 10 && state.atLineStart && !state.returned
  let starts := state.atLineStart && !state.returned
  let numbers := starts && style.numbered && (style.emptyNumbered || !isEmpty)
  let label : Bytes := if numbers then Raw.encode (padNumber 6 state.number ++ "\t") else []
  let number := if numbers then state.number + 1 else state.number
  if b = 10 then
    if isEmpty && style.squeezed && state.afterEmpty then ([], state)
    else
      (label ++ held ++ (if style.endsShown then [36, 10] else [10]), ⟨number, true, isEmpty, false⟩)
  else if b = 13 && style.endsShown && !style.allShown then
    (label ++ held, ⟨number, false, false, true⟩)
  else
    let shown : Bytes :=
      if b = 9 && style.tabsShown then [94, 73] else if style.allShown then visibleByte b else [b]
    (label ++ held ++ shown, ⟨number, false, false, false⟩)

/-- Shows the next bytes of joined files. -/
def JoinedStyle.render (style : JoinedStyle) (state : JoinedState) (bytes : Bytes) :
    Bytes × JoinedState :=
  let (shown, state) := bytes.foldl (fun (shown, state) b =>
    let (more, state) := style.step state b
    (more.reverse ++ shown, state)) (([], state) : Bytes × JoinedState)
  (shown.reverse, state)

def catTool : Tool :=
  withOptions "cat" 1
    { flags := "nbETAsvuet"
      valued := ""
      long := [("show-all", 'A'), ("number-nonblank", 'b'), ("show-ends", 'E'), ("number", 'n'),
        ("squeeze-blank", 's'), ("show-tabs", 'T'), ("show-nonprinting", 'v')] }
    fun parsed run =>
      let operands := operandsOrInput parsed.operands
      if !parsed.hasAny "nbETAsvet" then writeOperands (cannotOpen "cat") id operands run
      else
        let style : JoinedStyle :=
          { numbered := parsed.hasAny "nb"
            emptyNumbered := !parsed.has 'b'
            squeezed := parsed.has 's'
            endsShown := parsed.hasAny "EAe"
            tabsShown := parsed.hasAny "ATt"
            allShown := parsed.hasAny "Avet" }
        let ((code, state), run) := foldOperands (fun name held (code, state) run =>
          match held with
          | .ok flow =>
            let (shown, state) := style.render state flow.known
            ((code, state), run.write shown)
          | .error e => ((1, state), run.complain (cannotOpen "cat" name e)))
          operands ((0, {}) : Nat × JoinedState) run
        (code, if state.returned then run.write [13] else run)

/-- Copies the input to files and to the output. -/
def teeTool : Tool :=
  withOptions "tee" 1
    { flags := "aip", valued := "", long := [("append", 'a'), ("ignore-interrupts", 'i')] }
    fun parsed run =>
      let (flow, run) := run.takeInput
      let (ok, run) := parsed.operands.foldl (fun (ok, run) name =>
        let path := run.resolve name
        let result := run.attempt fun fs =>
          fs.update path fun old => if parsed.has 'a' then old ++ flow.bytes else flow.bytes
        match result with
        | (.ok (), run) => (ok, run)
        | (.error e, run) => (false, run.complain (cannotOpen "tee" name e))) (true, run)
      (codeOf ok, run.pour flow)

def turned (line : Bytes) : Bytes :=
  match Utf8.decode? line with
  | some text => Raw.encode (String.ofList text.toList.reverse)
  | none => line.reverse

/-- A function on all of the bytes of a flow that ends. -/
def onBytes (f : Bytes → Bytes) (flow : Flow) : Flow :=
  .ofBytes (f flow.known)

/-- Turns each line around. What is printed is gathered, and complaints are not. -/
def revTool : Tool := withOptions "rev" 1 { flags := "", valued := "" } fun parsed run =>
  let (texts, run) := if parsed.operands.isEmpty then
      let (flow, run) := run.takeInput
      ([some flow.known], run)
    else
      parsed.operands.foldl (fun (texts, run) name =>
        match run.read name with
        | .ok bytes => (texts ++ [some bytes], run)
        | .error e =>
          (texts ++ [none], run.complain ("rev: cannot open " ++ name ++ ": " ++ plainMessage e)))
        (([], run) : List (Option Bytes) × Run)
  (codeOf (texts.all Option.isSome),
    run.write (texts.flatMap fun text => mapLines (·.map turned) (text.getD [])))

/-- The pieces of bytes that a separator ends, each with its separator. -/
def piecesAfter (separator : Bytes) : Nat → Bytes → Bytes → List Bytes
  | 0, begun, rest => [begun.reverse ++ rest]
  | _, begun, [] => if begun.isEmpty then [] else [begun.reverse]
  | fuel + 1, begun, b :: rest =>
    if separator.isPrefixOf (b :: rest) then
      (begun.reverse ++ separator) ::
        piecesAfter separator fuel [] ((b :: rest).drop separator.length)
    else piecesAfter separator fuel (b :: begun) rest

/-- The pieces of bytes that a separator begins, each with its separator. -/
def piecesBefore (separator : Bytes) : Nat → Bytes → Bytes → List Bytes
  | 0, begun, rest => [begun.reverse ++ rest]
  | _, begun, [] => if begun.isEmpty then [] else [begun.reverse]
  | fuel + 1, begun, b :: rest =>
    if separator.isPrefixOf (b :: rest) then
      let more := piecesBefore separator fuel separator.reverse
        ((b :: rest).drop separator.length)
      if begun.isEmpty then more else begun.reverse :: more
    else piecesBefore separator fuel (b :: begun) rest

/-- Shows the lines of each file in reverse order. -/
def tacTool : Tool :=
  withOptions "tac" 1
    { flags := "br", valued := "s", long := [("before", 'b'), ("regex", 'r'), ("separator", 's')] }
    fun parsed run =>
      let complaint (name : String) (e : IoError) : String :=
        if e = .os .isDirectory then "tac: " ++ quoteLabel name ++ ": read error: Invalid argument"
        else "tac: failed to open " ++ quoteName name ++ " for reading: " ++ plainMessage e
      let separator := Raw.encode ((parsed.value? 's').getD "\n")
      let separator := if separator.isEmpty then [0] else separator
      let pieces := if parsed.has 'b' then piecesBefore separator else piecesAfter separator
      -- What is printed is gathered, and complaints are not.
      let (flows, ok, run) := readOperands complaint (operandsOrInput parsed.operands) run
      (codeOf ok, run.write (flows.flatMap fun (_, flow) =>
        (pieces flow.known.length [] flow.known).reverse.flatten))

end LineShell.Machine
