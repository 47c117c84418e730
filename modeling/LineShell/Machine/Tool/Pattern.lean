import LineShell.Machine.Tool.Order

/-!
# Regular expressions

Basic and extended expressions of the portable kind, over bytes. The two kinds differ only in which
marks need a backslash.
-/
namespace LineShell.Machine

def isWordByte (b : UInt8) : Bool :=
  isDigitByte b || isLetterByte b || b == 95

/-- A condition on a place between bytes. -/
inductive Place where
  | lineStart
  | lineEnd
  /-- Where a row of the line begins: rows are ended by line feeds. -/
  | rowStart
  | rowEnd
  | wordStart
  | wordEnd
  | wordEdge
  | noWordEdge
  deriving Repr, DecidableEq

inductive Pattern where
  /-- It matches nothing at all, not even the empty text. -/
  | never
  /-- It matches the empty text. -/
  | empty
  | any
  | oneOf (members : List UInt8)
  | place (place : Place)
  | sequence (first second : Pattern)
  | either (first second : Pattern)
  | repeated (part : Pattern) (least : Nat) (most : Option Nat)
  | group (number : Nat) (part : Pattern)
  /-- What a group matched, again. -/
  | again (number : Nat)
  deriving Inhabited, Repr

/-- Why a text is no expression. -/
inductive PatternError where
  | unmatchedBracket
  | unmatchedOpen
  | unmatchedClose
  | unmatchedBrace
  | badBounds
  | badRange
  | badClass
  | badCollation
  | badReference
  | nothingToRepeat
  | trailingBackslash
  | emptyBracket
  | bareClass
  | tooManyTimes
  deriving Repr, DecidableEq

def PatternError.message : PatternError → String
  | .unmatchedBracket => "Unmatched [, [^, [:, [., or [="
  | .unmatchedOpen => "Unmatched ( or \\("
  | .unmatchedClose => "Unmatched ) or \\)"
  | .unmatchedBrace => "Unmatched \\\x7b"
  | .badBounds => "Invalid content of \\\x7b\\\x7d"
  | .badRange => "Invalid range end"
  | .badClass => "Invalid character class name"
  | .badCollation => "Invalid collation character"
  | .badReference => "Invalid back reference"
  | .nothingToRepeat => "Invalid preceding regular expression"
  | .trailingBackslash => "Trailing backslash"
  | .emptyBracket => "Invalid regular expression"
  | .bareClass => "character class syntax is [[:space:]], not [:space:]"
  | .tooManyTimes => "Regular expression too big"

namespace Pattern

def allBytes : List UInt8 :=
  (List.range 256).map Nat.toUInt8

def classOf? (name : String) : Option (UInt8 → Bool) :=
  match name with
  | "alpha" => some isLetterByte
  | "digit" => some isDigitByte
  | "alnum" => some fun b => isLetterByte b || isDigitByte b
  | "upper" => some fun b => 65 ≤ b && b ≤ 90
  | "lower" => some fun b => 97 ≤ b && b ≤ 122
  | "space" => some isSpaceByte
  | "blank" => some isBlankByte
  | "punct" => some fun b => 33 ≤ b && b ≤ 126 && !(isLetterByte b || isDigitByte b)
  | "print" => some fun b => 32 ≤ b && b ≤ 126
  | "graph" => some fun b => 33 ≤ b && b ≤ 126
  | "cntrl" => some fun b => b < 32 || b == 127
  | "xdigit" => some fun b => isDigitByte b || (97 ≤ lowerByte b && lowerByte b ≤ 102)
  | _ => none

/-- The bytes of a class; there are none if no class has the name. -/
def classMembers (name : Bytes) : List UInt8 :=
  match classOf? (Raw.decode name) with
  | some test => allBytes.filter test
  | none => []

def byteRange (low high : UInt8) : List UInt8 :=
  allBytes.filter fun b => low ≤ b && b ≤ high

/-- How expressions are read. -/
structure Grammar where
  /-- Whether marks stand without backslashes. -/
  extended : Bool := false
  /-- Whether small and capital letters are the same. -/
  fold : Bool := false
  /-- Whether marks where they make no sense stand for themselves. -/
  lenient : Bool := false
  /-- Whether anchors stand for the ends of rows, which nothing but a line feed itself goes over. -/
  rows : Bool := false
  /-- Whether a star or bounds may follow neither nothing nor another mark of repetition. -/
  single : Bool := false
  /-- Whether a bracket expression that looks like the name of a class is refused. -/
  strictClasses : Bool := false

/-- Both cases of the letters among bytes, where these are the same. -/
def Grammar.spread (grammar : Grammar) (members : List UInt8) : List UInt8 :=
  if grammar.fold then
    allBytes.filter fun b => members.contains (lowerByte b) || members.contains (upperByte b)
  else members

def Grammar.byte (grammar : Grammar) (b : UInt8) : Pattern :=
  .oneOf (grammar.spread [b])

/-- The text up to a mark of two bytes, and what follows that. -/
def upTo (a b : UInt8) : Bytes → Option (Bytes × Bytes)
  | x :: y :: rest =>
    if x = a && y = b then some ([], rest)
    else (upTo a b (y :: rest)).map fun (text, rest) => (x :: text, rest)
  | _ => none

/-- One element of a bracket expression, which may be the end of a range. -/
inductive Element where
  | byte (b : UInt8)
  | members (members : List UInt8)

def element (s : Bytes) : Except PatternError (Element × Bytes) :=
  match s with
  | 91 :: 58 :: rest =>
    match upTo 58 93 rest with
    | none => .error .unmatchedBracket
    | some (name, rest) =>
      match classOf? (Raw.decode name) with
      | some test => .ok (.members (allBytes.filter test), rest)
      | none => .error .badClass
  | 91 :: 46 :: rest =>
    match upTo 46 93 rest with
    | some ([b], rest) => .ok (.byte b, rest)
    | some _ => .error .badCollation
    | none => .error .unmatchedBracket
  | 91 :: 61 :: rest =>
    match upTo 61 93 rest with
    | some ([b], rest) => .ok (.members [b], rest)
    | some _ => .error .badCollation
    | none => .error .unmatchedBracket
  | b :: rest => .ok (.byte b, rest)
  | [] => .error .unmatchedBracket

/-- The members of a bracket expression up to its closing bracket, and what follows that. -/
def setMembers : Nat → Bool → Bytes → Except PatternError (List UInt8 × Bytes)
  | 0, _, _ => .error .unmatchedBracket
  | fuel + 1, first, s => do
    if s.head? = some 93 && !first then return ([], s.tail)
    -- A hyphen that is neither the first nor the last member only tells of a range.
    match s with
    | 45 :: next :: _ => if !first && next != 93 then throw .badRange
    | _ => pure ()
    match ← element s with
    | (.members members, rest) =>
      match rest with
      | 45 :: next :: _ => if next != 93 then throw .badRange
      | _ => pure ()
      let (more, rest) ← setMembers fuel false rest
      return (members ++ more, rest)
    | (.byte low, rest) =>
      match rest with
      | 45 :: 93 :: _ | [] | [_] =>
        let (more, rest) ← setMembers fuel false rest
        return (low :: more, rest)
      | 45 :: rest =>
        match ← element rest with
        | (.members _, _) => throw .badRange
        | (.byte high, rest) =>
          if high < low then throw .badRange
          let (more, rest) ← setMembers fuel false rest
          return (byteRange low high ++ more, rest)
      | rest =>
        let (more, rest) ← setMembers fuel false rest
        return (low :: more, rest)

/-- The expression of a bracket expression, after its opening bracket. -/
def bracket (grammar : Grammar) (s : Bytes) : Except PatternError (Pattern × Bytes) := do
  let (negated, s) := match s with
    | 94 :: rest => (true, rest)
    | s => (false, s)
  if s.isEmpty then throw .emptyBracket
  let (members, rest) ← setMembers (s.length + 1) true s
  let inner := s.take (s.length - rest.length - 1)
  let isName := inner.any (· != 58) && inner.head? = some 58 && inner.getLast? = some 58
    && !inner.contains 45 && !inner.contains 91
  if grammar.strictClasses && isName then throw .bareClass
  let members := grammar.spread members
  let others := allBytes.filter fun b => !members.contains b && !(grammar.rows && b == 10)
  let members := if negated then others else members
  return (.oneOf members, rest)

/-- A number between braces, with what comes after it. -/
structure BoundNumber where
  /-- The digits, unless there is something else among them. -/
  digits : Option Bytes
  /-- Whether the bounds end here rather than at a comma later on; nothing if the text ends. -/
  closes : Option Bool
  rest : Bytes

/-- The number at the beginning of a text between braces; `read` is what was read of it. -/
def boundNumber (grammar : Grammar) (read : Bytes) : Bytes → BoundNumber
  | [] => ⟨none, none, []⟩
  | 92 :: b :: rest =>
    if b = 125 && !grammar.extended then
      ⟨if read.all isDigitByte then some read else none, some true, rest⟩
    else boundNumber grammar (read ++ [92, b]) rest
  | b :: rest =>
    if b = 44 || b = 125 && grammar.extended then
      ⟨if read.all isDigitByte then some read else none, some (b = 125), rest⟩
    else boundNumber grammar (read ++ [b]) rest

/-- The largest number of times. -/
def mostTimes : Nat := 32767

/-- The bounds between braces, after the opening one; nothing if the brace stands for itself. -/
def bounds (grammar : Grammar) (s : Bytes) :
    Except PatternError (Option (Nat × Option Nat × Bytes)) :=
  let malformed (closes : Option Bool) : Except PatternError (Option (Nat × Option Nat × Bytes)) :=
    if grammar.extended && grammar.lenient then .ok none
    else .error (if closes.isNone then .unmatchedBrace else .badBounds)
  let first := boundNumber grammar [] s
  match first.digits with
  | none => malformed first.closes
  | some low =>
    let least := digitsValue low
    if first.closes = some true then
      if low.isEmpty then .error .badBounds
      else if mostTimes < least then .error .tooManyTimes
      else .ok (some (least, some least, first.rest))
    else
      let second := boundNumber grammar [] first.rest
      match second.digits with
      | none => malformed second.closes
      | some high =>
        let most := if high.isEmpty then none else some (digitsValue high)
        if most.any (· < least) || second.closes != some true then .error .badBounds
        else if mostTimes < most.getD least then .error .tooManyTimes
        else .ok (some (least, most, second.rest))

/-- A mark after an item that tells how often it comes. -/
def repetition (grammar : Grammar) (s : Bytes) :
    Except PatternError (Option (Nat × Option Nat × Bytes)) :=
  let marked : Option (UInt8 × Bytes) := match s with
    | 42 :: rest => some (42, rest)
    | 92 :: b :: rest =>
      if !grammar.extended && [43, 63, 123].contains b then some (b, rest) else none
    | b :: rest => if grammar.extended && [43, 63, 123].contains b then some (b, rest) else none
    | [] => none
  match marked with
  | none => .ok none
  | some (42, rest) => .ok (some (0, none, rest))
  | some (43, rest) => .ok (some (1, none, rest))
  | some (63, rest) => .ok (some (0, some 1, rest))
  | some (_, rest) => bounds grammar rest

/-- A mark of two bytes, the first one a backslash, or of one byte, as the grammar has it. -/
def afterMark (bare : Bool) (mark : UInt8) (s : Bytes) : Option Bytes :=
  match bare, s with
  | true, b :: rest => if b = mark then some rest else none
  | false, 92 :: b :: rest => if b = mark then some rest else none
  | _, _ => none

/-- Applies the repetition marks at the beginning of a text to an item. -/
def withRepetitions (grammar : Grammar) :
    Nat → Pattern → Bytes → Except PatternError (Pattern × Bytes)
  | 0, item, s => .ok (item, s)
  | fuel + 1, item, s => do
    match ← repetition grammar s with
    | none => return (item, s)
    | some (least, most, rest) =>
      if grammar.single && (rest.head? = some 42 || (afterMark false 123 rest).isSome) then
        throw .nothingToRepeat
      withRepetitions grammar fuel (.repeated item least most) rest

/-- The expression of a letter after a backslash. -/
def escaped (grammar : Grammar) (groups : Nat) (b : UInt8) : Except PatternError Pattern :=
  let space := allBytes.filter isSpaceByte
  let word := allBytes.filter isWordByte
  let without (members : List UInt8) : List UInt8 := allBytes.filter (!members.contains ·)
  if 49 ≤ b && b ≤ 57 then
    if (b - 48).toNat ≤ groups then .ok (.again (b - 48).toNat) else .error .badReference
  else if b = 119 then .ok (.oneOf word)
  else if b = 87 then .ok (.oneOf (without word))
  else if b = 115 then .ok (.oneOf space)
  else if b = 83 then .ok (.oneOf (without space))
  else if b = 60 then .ok (.place .wordStart)
  else if b = 62 then .ok (.place .wordEnd)
  else if b = 98 then .ok (.place .wordEdge)
  else if b = 66 then .ok (.place .noWordEdge)
  else if b = 96 then .ok (.place .lineStart)
  else if b = 39 then .ok (.place .lineEnd)
  else .ok (grammar.byte b)

/-- What has been read of an expression. -/
structure Reading where
  /-- The alternatives before the current one, and what there is of that. -/
  earlier : Pattern
  current : Pattern
  /-- Whether nothing was read since the beginning of the alternative, an anchor apart. -/
  fresh : Bool
  /-- How many groups were begun. -/
  groups : Nat

def Reading.add (reading : Reading) (item : Pattern) (fresh : Bool) : Reading :=
  { reading with
    current := match reading.current with
      | .empty => item
      | current => .sequence current item
    fresh }

def Reading.result (reading : Reading) : Pattern :=
  match reading.earlier with
  | .never => reading.current
  | earlier => .either earlier reading.current

/-- Reads an expression, up to the end or to the mark that closes a group. -/
def read (grammar : Grammar) (depth : Nat) :
    Nat → Reading → Bytes → Except PatternError (Reading × Bytes)
  | 0, _, _ => .error .trailingBackslash
  | fuel + 1, reading, s => do
    if s.isEmpty then
      if 0 < depth then throw .unmatchedOpen
      return (reading, [])
    let item (pattern : Pattern) (groups : Nat) (rest : Bytes) :
        Except PatternError (Reading × Bytes) := do
      let (pattern, rest) ← withRepetitions grammar (rest.length + 1) pattern rest
      read grammar depth fuel ({ reading with groups }.add pattern false) rest
    if let some rest := afterMark grammar.extended 124 s then
      read grammar depth fuel
        { reading with earlier := reading.result, current := .empty, fresh := true } rest
    else if let some rest := afterMark grammar.extended 40 s then
      let number := reading.groups + 1
      let (inner, rest) ← read grammar (depth + 1) fuel ⟨.never, .empty, true, number⟩ rest
      item (.group number inner.result) inner.groups rest
    else if let some rest := afterMark grammar.extended 41 s then
      if 0 < depth then return (reading, rest)
      else if grammar.extended && grammar.lenient then item (grammar.byte 41) reading.groups rest
      else throw .unmatchedClose
    else
      match s with
      | 46 :: rest =>
        let inRow : Pattern := .oneOf (allBytes.filter (· != 10))
        item (if grammar.rows then inRow else .any) reading.groups rest
      | 91 :: rest =>
        let (set, rest) ← bracket grammar rest
        item set reading.groups rest
      | 94 :: rest =>
        if grammar.extended || reading.fresh && reading.current matches .empty then
          let anchored := reading.add (.place (if grammar.rows then .rowStart else .lineStart)) true
          read grammar depth fuel anchored rest
        else item (grammar.byte 94) reading.groups rest
      | 36 :: rest =>
        let last := rest.isEmpty || (afterMark false 41 rest).isSome
          || (afterMark false 124 rest).isSome
        if grammar.extended || last then
          item (.place (if grammar.rows then .rowEnd else .lineEnd)) reading.groups rest
        else item (grammar.byte 36) reading.groups rest
      | 42 :: rest =>
        if !grammar.extended then item (grammar.byte 42) reading.groups rest
        else if grammar.lenient then read grammar depth fuel reading rest
        else throw .nothingToRepeat
      | [92] => throw .trailingBackslash
      | 92 :: b :: rest =>
        if grammar.single && reading.fresh && b = 123 then throw .nothingToRepeat
        let pattern ← escaped grammar reading.groups b
        item pattern reading.groups rest
      | b :: rest =>
        if grammar.extended && reading.fresh && [43, 63, 123].contains b then
          if !grammar.lenient then throw .nothingToRepeat
          else
            match b, bounds grammar rest with
            | 123, .ok (some (_, _, rest)) => read grammar depth fuel reading rest
            | 123, _ => item (grammar.byte b) reading.groups rest
            | _, _ => read grammar depth fuel reading rest
        else item (grammar.byte b) reading.groups rest
      | [] => return (reading, [])

def parse (grammar : Grammar) (s : Bytes) : Except PatternError Pattern := do
  let (reading, _) ← read grammar 0 (2 * s.length + 2) ⟨.never, .empty, true, 0⟩ s
  return reading.result

def literal (fold : Bool) (s : Bytes) : Pattern :=
  s.foldr (fun b rest => .sequence (Grammar.byte { fold } b) rest) .empty

def groupCount : Pattern → Nat
  | .sequence a b | .either a b => max a.groupCount b.groupCount
  | .repeated p _ _ => p.groupCount
  | .group n p => max n p.groupCount
  | _ => 0

/-- Whether what a group matched has to be matched again. -/
def repeatsGroup : Pattern → Bool
  | .sequence a b | .either a b => a.repeatsGroup || b.repeatsGroup
  | .repeated p _ _ | .group _ p => p.repeatsGroup
  | .again _ => true
  | _ => false

end Pattern
end LineShell.Machine
