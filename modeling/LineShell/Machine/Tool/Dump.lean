import LineShell.Machine.Tool.Extent
import LineShell.Machine.Tool.Lines
import LineShell.Machine.Tool.Numeral

/-!
# Bytes as text

Dumps, which show bytes as numbers or characters, and the encoding of bytes as letters.
-/
namespace LineShell.Machine

/-- A number in a radix, filled up with zeros. -/
def radixDigits (radix width n : Nat) : String :=
  let digits := String.ofList (Nat.toDigits radix n)
  "".pushn '0' (width - digits.length) ++ digits

namespace Dump

/-- How the units of a line are shown. -/
inductive Style where
  | names
  | characters
  | signed
  | number (radix : Nat)

/-- A way to show the bytes of a line. -/
structure Format where
  style : Style
  /-- The number of bytes in a unit. -/
  size : Nat
  /-- Whether the characters stand beside. -/
  aside : Bool := false

/-- The number of characters that a unit takes. -/
def Format.width (format : Format) : Nat :=
  let index (sizes : List Nat) : Nat := match format.size with
    | 1 => sizes.getD 0 0
    | 2 => sizes.getD 1 0
    | 4 => sizes.getD 2 0
    | _ => sizes.getD 3 0
  match format.style with
  | .names | .characters => 3
  | .signed => index [4, 6, 11, 20]
  | .number 8 => index [3, 6, 11, 22]
  | .number 10 => index [3, 5, 10, 20]
  | .number _ => index [2, 4, 8, 16]

/-- The names of the bytes that are no visible characters. -/
def byteName (b : UInt8) : String :=
  let names := ["nul", "soh", "stx", "etx", "eot", "enq", "ack", "bel", "bs", "ht", "nl", "vt", "ff",
    "cr", "so", "si", "dle", "dc1", "dc2", "dc3", "dc4", "nak", "syn", "etb", "can", "em", "sub",
    "esc", "fs", "gs", "rs", "us", "sp"]
  let b := b.toNat % 128
  if b = 127 then "del" else names.getD b (Char.ofNat b).toString

def byteCharacter (b : UInt8) : String :=
  let escapes : List (Nat × String) := [(0, "\\0"), (7, "\\a"), (8, "\\b"), (9, "\\t"), (10, "\\n"),
    (11, "\\v"), (12, "\\f"), (13, "\\r")]
  match escapes.lookup b.toNat with
  | some text => text
  | none => if 32 ≤ b && b < 127 then (Char.ofNat b.toNat).toString else radixDigits 8 3 b.toNat

def Format.unit (format : Format) (bytes : Bytes) : String :=
  let value : Nat := bytes.reverse.foldl (fun n b => n * 256 + b.toNat) 0
  match format.style with
  | .names => byteName (bytes.headD 0)
  | .characters => byteCharacter (bytes.headD 0)
  | .signed =>
    let bound := Nat.pow 2 (8 * format.size)
    toString (if value < bound / 2 then (value : Int) else (value : Int) - bound)
  | .number 10 => toString value
  | .number radix => radixDigits radix format.width value

/-- Bytes cut into units; the last one is filled up with zeros. -/
def unitsOf (size : Nat) : Nat → Bytes → List Bytes
  | 0, _ => []
  | _, [] => []
  | fuel + 1, bytes =>
    let unit := bytes.take size
    (unit ++ List.replicate (size - unit.length) 0) :: unitsOf size fuel (bytes.drop size)

/-- The text of a line, its units spread over the room of `room` characters for `count` bytes. -/
def Format.line (format : Format) (room count : Nat) (bytes : Bytes) : String :=
  let fields := count / format.size
  let padding := room - format.width * fields
  let texts := (unitsOf format.size bytes.length bytes).zipIdx.map fun (unit, i) =>
    let before := padding * (fields - i) / fields
    let after := padding * (fields - i - 1) / fields
    let text := format.unit unit
    "".pushn ' ' (before - after + format.width - text.length) ++ text
  let shown := String.join texts
  if format.aside then
    let seen := bytes.map fun b => if 32 ≤ b && b < 127 then Char.ofNat b.toNat else '.'
    let missing := fields - texts.length
    shown ++ "".pushn ' ' (format.width * missing + padding * missing / fields)
      ++ "  >" ++ String.ofList seen ++ "<"
  else shown

/-- Why a word lists no formats. -/
inductive FormatError where
  | unknown (letter : Char)
  | noSize (size : Nat)

def FormatError.message (word : String) : FormatError → String
  | .unknown letter =>
    "od: invalid character '" ++ letter.toString ++ "' in type string " ++ quoteText word
  | .noSize size =>
    "od: invalid type string " ++ quoteText word ++ ";\nthis system doesn't provide a "
      ++ toString size ++ "-byte integral type"

def formatsOf : Nat → List Char → Except FormatError (List Format)
  | 0, _ => .ok []
  | _, [] => .ok []
  | fuel + 1, c :: cs =>
    let withAside (format : Format) (cs : List Char) : Except FormatError (List Format) :=
      match cs with
      | 'z' :: cs => (formatsOf fuel cs).map ({ format with aside := true } :: ·)
      | cs => (formatsOf fuel cs).map (format :: ·)
    let sized (style : Style) : Except FormatError (List Format) :=
      let (size, cs) : Nat × List Char := match cs with
        | 'C' :: cs => (1, cs)
        | 'S' :: cs => (2, cs)
        | 'I' :: cs => (4, cs)
        | 'L' :: cs => (8, cs)
        | cs =>
          let digits := cs.takeWhile Char.isDigit
          (((String.ofList digits).toNat?).getD 4, cs.drop digits.length)
      if [1, 2, 4, 8].contains size then withAside ⟨style, size, false⟩ cs else .error (.noSize size)
    match c with
    | 'a' => withAside ⟨.names, 1, false⟩ cs
    | 'c' => withAside ⟨.characters, 1, false⟩ cs
    | 'd' => sized .signed
    | 'o' => sized (.number 8)
    | 'u' => sized (.number 10)
    | 'x' => sized (.number 16)
    | _ => .error (.unknown c)

def formatsFor (letter : Char) (value : String) : Except String (List Format) :=
  let one (style : Style) (size : Nat) : Except String (List Format) := .ok [⟨style, size, false⟩]
  match letter with
  | 'a' => one .names 1
  | 'b' => one (.number 8) 1
  | 'c' => one .characters 1
  | 'd' => one (.number 10) 2
  | 'D' => one (.number 10) 4
  | 'i' => one .signed 4
  | 'l' | 'I' | 'L' => one .signed 8
  | 'o' | 'B' => one (.number 8) 2
  | 'O' => one (.number 8) 4
  | 's' => one .signed 2
  | 'x' | 'h' => one (.number 16) 2
  | 'X' | 'H' => one (.number 16) 4
  | 't' => (formatsOf (value.length + 1) value.toList).mapError (·.message value)
  | _ => .ok []

def address (radix : Char) (n : Nat) : String :=
  match radix with
  | 'd' => radixDigits 10 7 n
  | 'x' => radixDigits 16 6 n
  | 'n' => ""
  | _ => radixDigits 8 7 n

/-- The texts of lines of bytes with their addresses; one like the line before is shown as a star,
once. -/
def lines (all : Bool) (text : Nat → Bytes → String) :
    Nat → Option Bytes → Bool → List Bytes → List String
  | _, _, _, [] => []
  | n, before, starred, bytes :: rest =>
    let next := n + bytes.length
    if !all && before = some bytes && !rest.isEmpty then
      (if starred then "" else "*\n") :: lines all text next before true rest
    else (text n bytes ++ "\n") :: lines all text next (some bytes) false rest

/-- Cuts bytes into lines. -/
def chunks (size : Nat) : Nat → Bytes → List Bytes
  | 0, _ => []
  | _, [] => []
  | fuel + 1, bytes => bytes.take size :: chunks size fuel (bytes.drop size)

/-- What the words of the dumping tool ask for. -/
structure Request where
  formats : List Format
  radix : Char
  skipped : Nat
  limit : Option Nat
  /-- The number of bytes in a line. -/
  width : Nat
  /-- Whether lines like the one before are shown too. -/
  all : Bool
  operands : List String

/-- The number of an old-style offset: an octal number with a plus before it, or a decimal one with a
point after it, or one of blocks. -/
def oldOffset? (word : String) : Option Nat :=
  let s := word.toList
  let s := if s.head? = some '+' then s.tail else s
  let (s, unit) := if s.getLast? = some 'b' then (s.dropLast, 512) else (s, 1)
  let number (radix : Nat) (isDigit : Char → Bool) (s : List Char) : Option Nat :=
    if s.isEmpty || !s.all isDigit then none else some (digitsIn radix s * unit)
  match s with
  | '0' :: 'x' :: digits => number 16 isHex digits
  | s => if s.getLast? = some '.' then number 10 Char.isDigit s.dropLast else number 8 isOctal s

/-- The operands, and the offset that an old-style one among them is. -/
def withoutOffset (parsed : Parsed) : List String × Option Nat :=
  if parsed.hasAny "AjNtvwS" then (parsed.operands, none)
  else
    match parsed.operands with
    | [word] =>
      match if word.startsWith "+" then oldOffset? word else none with
      | some n => ([], some n)
      | none => ([word], none)
    | [name, word] =>
      let marked := word.startsWith "+" || (word.toList.head?).any Char.isDigit
      match if marked then oldOffset? word else none with
      | some n => ([name], some n)
      | none => ([name, word], none)
    | operands => (operands, none)

def Request.ofParsed (parsed : Parsed) : Except String Request := do
  let radix := (parsed.value? 'A').getD "o"
  if !(["d", "o", "x", "n"].contains radix) then
    throw ("od: invalid output address radix '" ++ (radix.take 1).toString
      ++ "'; it must be one character from [doxn]")
  let number (letter : Char) : Except String (Option Nat) :=
    match parsed.value? letter with
    | none => .ok none
    | some word =>
      match count? word with
      | some (n, none) => .ok (some n)
      | _ => .error ("od: invalid -" ++ letter.toString ++ " argument " ++ quoteText word)
  let skipped ← number 'j'
  let limit ← number 'N'
  let asked ← parsed.options.mapM fun (letter, value) => formatsFor letter value
  let width ← if parsed.value? 'w' = some "" then .ok (some 32) else number 'w'
  let (operands, offset) := withoutOffset parsed
  let formats : List Format :=
    if asked.flatten.isEmpty then [⟨.number 8, 2, false⟩] else asked.flatten
  return ⟨formats, radix.toList.headD 'o', offset.getD (skipped.getD 0), limit, width.getD 16,
    parsed.has 'v', operandsOrInput operands⟩

/-- Shows bytes. Each of some complaints comes at the number of bytes that were read before it. -/
def Request.dump (request : Request) (bytes : Bytes) (complaints : List (Nat × String)) (run : Run) :
    Run :=
  let sizes := request.formats.map (·.size)
  let unit := sizes.foldl max 1
  let width := if request.width % unit = 0 && request.width ≠ 0 then request.width else unit
  let run := if width = request.width then run
    else run.complain ("od: warning: invalid width " ++ toString request.width ++ "; using "
      ++ toString width ++ " instead")
  let room := (request.formats.map fun f => (f.width + 1) * (width / f.size)).foldl max 0
  let line (n : Nat) (bytes : Bytes) : String :=
    "\n".intercalate (request.formats.zipIdx.map fun (format, i) =>
      let address := address request.radix n
      (if i = 0 then address else "".pushn ' ' address.length) ++ format.line room width bytes)
  let texts := lines request.all line request.skipped none false
    (chunks width bytes.length bytes)
  let put (run : Run) (texts : List String) : Run := run.put (String.join texts)
  let (run, done) := complaints.foldl (fun (state : Run × Nat) (read, complaint) =>
    let (run, done) := state
    let full := max done (read / width)
    ((put run ((texts.take full).drop done)).complain complaint, full)) (run, 0)
  let run := put run (texts.drop done)
  if request.radix = 'n' then run
  else run.put (address request.radix (request.skipped + bytes.length) ++ "\n")

end Dump

def odTable : OptionTable where
  flags := "abcdDilILoBOsxhXHv"
  valued := "AtjNSE"
  optional := "w"
  long := [("address-radix", 'A'), ("format", 't'), ("skip-bytes", 'j'), ("read-bytes", 'N'),
    ("width", 'w'), ("output-duplicates", 'v'), ("endian", 'E'), ("strings", 'S')]

/-- Shows bytes as numbers or characters. -/
def odTool : Tool :=
  withOptions "od" 1 odTable fun parsed run =>
    match Dump.Request.ofParsed parsed with
    | .error complaint => (1, run.complain complaint)
    | .ok request =>
      let ((bytes, complaints), run) := foldOperands (fun name held state run =>
        let (bytes, complaints) := state
        match held with
        | .ok flow => ((bytes ++ flow.known, complaints), run)
        | .error e =>
          ((bytes, complaints ++ [(name, bytes.length, cannotOpen "od" name e)]), run))
        request.operands (([], []) : Bytes × List (String × Nat × String)) run
      let code := if complaints.isEmpty then 0 else 1
      let told := complaints.map fun (_, n, complaint) => (n - request.skipped, complaint)
      -- Where no file can be opened, not even the address of the end is shown.
      let opened := request.operands.filter fun name =>
        match run.read name with
        | .error e => name = "-" || e = .os .isDirectory
        | .ok _ => true
      if opened.isEmpty then (1, told.foldl (fun run (_, complaint) => run.complain complaint) run)
      else if bytes.length < request.skipped then
        (1, (told.foldl (fun run (_, complaint) => run.complain complaint) run).complain
          "od: cannot skip past end of combined input")
      else
        let bytes := bytes.drop request.skipped
        let bytes := request.limit.elim bytes bytes.take
        (code, request.dump bytes told run)

/-- The letters that stand for six bits each. -/
def baseLetters : Bytes :=
  Raw.encode "ABCDEFGHIJKLMNOPQRSTUVWXYZabcdefghijklmnopqrstuvwxyz0123456789+/"

/-- The letters for bytes, in groups of four. -/
def encodeBase : Bytes → Bytes
  | [] => []
  | a :: rest =>
    let letter (n : Nat) : UInt8 := baseLetters.getD (n % 64) 0
    match rest with
    | [] => [letter (a.toNat / 4), letter (a.toNat * 16), 61, 61]
    | [b] =>
      let n := a.toNat * 256 + b.toNat
      [letter (n / 1024), letter (n / 16), letter (n * 4), 61]
    | b :: c :: rest =>
      let n := (a.toNat * 256 + b.toNat) * 256 + c.toNat
      letter (n / 262144) :: letter (n / 4096) :: letter (n / 64) :: letter n :: encodeBase rest

/-- The bytes that letters stand for, up to the first group that cannot be read, and whether there is
none. Equals signs fill a group up. -/
def decodeBase : Bytes → Bytes × Bool
  | [] => ([], true)
  | a :: b :: rest =>
    let value (x : UInt8) : Option Nat := baseLetters.findIdx? (· == x)
    match value a, value b with
    | some w, some x =>
      let first := ((w * 64 + x) / 16).toUInt8
      match rest with
      | [] => ([first], false)
      | c :: rest =>
        match value c, rest with
        | none, d :: rest =>
          if c = 61 && d = 61 then
            let (more, ok) := decodeBase rest
            (first :: more, ok)
          else ([first], false)
        | none, [] => ([first], false)
        | some y, rest =>
          let second := ((x * 64 + y) / 4).toUInt8
          match rest with
          | [] => ([first, second], false)
          | d :: rest =>
            match value d with
            | some z =>
              let (more, ok) := decodeBase rest
              (first :: second :: (y * 64 + z).toUInt8 :: more, ok)
            | none =>
              if d = 61 then
                let (more, ok) := decodeBase rest
                (first :: second :: more, ok)
              else ([first, second], false)
    | _, _ => ([], false)
  | _ => ([], false)

/-- Encodes bytes as letters, or decodes them. -/
def base64Tool : Tool :=
  withOptions "base64" 1
    { flags := "di"
      valued := "w"
      long := [("decode", 'd'), ("ignore-garbage", 'i'), ("wrap", 'w')] }
    fun parsed run =>
      let width := (parsed.value? 'w').elim (some 76) String.toNat?
      match width, parsed.operands.drop 1 with
      | none, _ =>
        let word := (parsed.value? 'w').getD ""
        (1, run.complain ("base64: invalid wrap size: " ++ quoteText word))
      | _, extra :: _ =>
        (1, run.complain (withHelp "base64" ("base64: extra operand " ++ quoteText extra)))
      | some width, [] =>
        let (flows, ok, run) :=
          readOperands (cannotOpen "base64") (operandsOrInput parsed.operands) run
        let bytes := (joinFlows flows).known
        if !ok then (1, run)
        else if parsed.has 'd' then
          let letters := bytes.filter fun b =>
            if parsed.has 'i' then baseLetters.contains b || b == 61 else b != 10
          let (decoded, ok) := decodeBase letters
          let run := run.write decoded
          if ok then (0, run) else (1, run.complain "base64: invalid input")
        else
          let letters := encodeBase bytes
          if width = 0 then (0, run.write letters)
          else (0, run.write (joinLines (Dump.chunks width letters.length letters)))

end LineShell.Machine
