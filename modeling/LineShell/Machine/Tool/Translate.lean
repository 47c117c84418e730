import LineShell.Machine.Tool.Pattern

/-!
# Translating bytes

Sets of bytes are written as characters, escapes, ranges, classes and repetitions.
-/
namespace LineShell.Machine

namespace ByteSet

/-- A part of a set. -/
inductive Part where
  | byte (b : UInt8)
  | range (low high : UInt8)
  | named (name : String)
  /-- The bytes that are like one. -/
  | equivalent (b : UInt8)
  /-- A byte several times; zero times stands for as often as there is room. -/
  | many (b : UInt8) (count : Nat)

/-- Why a word is no set. -/
inductive Fault where
  | reversed (low high : UInt8)
  | unknownClass (name : String)
  | badCount (text : String)

def Fault.message : Fault → String
  | .reversed low high =>
    "tr: range-endpoints of '" ++ Raw.decode [low] ++ "-" ++ Raw.decode [high]
      ++ "' are in reverse collating sequence order"
  | .unknownClass name => "tr: invalid character class '" ++ name ++ "'"
  | .badCount text => "tr: invalid repeat count '" ++ text ++ "' in [c*n] construct"

/-- The escapes in a set replaced by their bytes; the flags tell which bytes were escaped. -/
def units : Nat → Bytes → List (UInt8 × Bool)
  | 0, _ => []
  | _, [] => []
  | fuel + 1, 92 :: rest =>
    let digits := (rest.take 3).takeWhile fun b => 48 ≤ b && b ≤ 55
    if !digits.isEmpty then
      let value := digits.foldl (fun n b => n * 8 + (b.toNat - 48)) 0
      -- Three digits that are too much for a byte are two and a digit of its own.
      if 255 < value then
        ((value / 8).toUInt8, true) :: units fuel (rest.drop 2)
      else (value.toUInt8, true) :: units fuel (rest.drop digits.length)
    else
      match rest with
      | [] => [(92, false)]
      | b :: rest =>
        let letters : List (UInt8 × UInt8) := [(97, 7), (98, 8), (102, 12), (110, 10), (114, 13),
          (116, 9), (118, 11)]
        ((letters.lookup b).getD b, true) :: units fuel rest
  | fuel + 1, b :: rest => (b, false) :: units fuel rest

/-- The text between a mark and its counterpart before a closing bracket, and what follows that. -/
def enclosed (mark : UInt8) : List (UInt8 × Bool) → Option (Bytes × List (UInt8 × Bool))
  | (a, false) :: (93, false) :: rest =>
    if a = mark then some ([], rest)
    else (enclosed mark ((93, false) :: rest)).map fun (text, rest) => (a :: text, rest)
  | (a, _) :: rest => (enclosed mark rest).map fun (text, rest) => (a :: text, rest)
  | [] => none

def repeatCount (digits : Bytes) : Option Nat :=
  let octal := digits.head? == some 48
  if digits.all fun b => 48 ≤ b && b < (if octal then 56 else 58) then
    some (digits.foldl (fun n b => n * (if octal then 8 else 10) + (b.toNat - 48)) 0)
  else none

def parts : Nat → List (UInt8 × Bool) → Except Fault (List Part)
  | 0, _ => .ok []
  | _, [] => .ok []
  | fuel + 1, u :: us => do
    let more (part : Part) (rest : List (UInt8 × Bool)) : Except Fault (List Part) :=
      (parts fuel rest).map (part :: ·)
    let plain (_ : Unit) : Except Fault (List Part) :=
      match us with
      | (45, false) :: (high, _) :: rest =>
        if high < u.1 then .error (.reversed u.1 high) else more (.range u.1 high) rest
      | _ => more (.byte u.1) us
    if u != (91, false) then plain ()
    else
      match us with
      | (58, false) :: rest =>
        match enclosed 58 rest with
        | some (name, rest) =>
          if name.isEmpty then plain ()
          else if (Pattern.classOf? (Raw.decode name)).isNone then
            .error (.unknownClass (Raw.decode name))
          else more (.named (Raw.decode name)) rest
        | none => plain ()
      | (61, false) :: rest =>
        match enclosed 61 rest with
        | some ([b], rest) => more (.equivalent b) rest
        | _ => plain ()
      | (b, _) :: (42, false) :: rest =>
        let text := rest.takeWhile (·.1 != 93)
        match rest.drop text.length with
        | [] => plain ()
        | _ :: rest =>
          match repeatCount (text.map (·.1)) with
          | some n => more (.many b n) rest
          | none => .error (.badCount (Raw.decode (text.map (·.1))))
      | _ => plain ()

/-- The parts of the set that a word spells. -/
def ofWord (word : String) : Except Fault (List Part) :=
  let bytes := Raw.encode word
  let spelled := units (bytes.length + 1) bytes
  parts (spelled.length + 1) spelled

/-- The bytes of a part; one that fills the room that is left gets some bytes. -/
def Part.members (room : Nat) : Part → List UInt8
  | .byte b | .equivalent b => [b]
  | .range low high => Pattern.byteRange low high
  | .named name => Pattern.classMembers (Raw.encode name)
  | .many b 0 => List.replicate room b
  | .many b count => List.replicate count b

/-- Whether a part fills the room that is left. -/
def Part.fills : Part → Bool
  | .many _ 0 => true
  | _ => false

def members (room : Nat) (parts : List Part) : List UInt8 :=
  parts.flatMap (·.members room)

/-- The classes of one case among parts, with the number of bytes before each. -/
def casePlaces (room : Nat) : Nat → List Part → List (Nat × String)
  | _, [] => []
  | n, part :: rest =>
    let later := casePlaces room (n + (part.members room).length) rest
    match part with
    | .named "lower" => (n, "lower") :: later
    | .named "upper" => (n, "upper") :: later
    | _ => later

/-- Whether a part is a class other than those of one case. -/
def Part.isOtherClass : Part → Bool
  | .named name => name != "lower" && name != "upper"
  | _ => false

def Part.isClass : Part → Bool
  | .named _ => true
  | _ => false

/-- Whether a part means the bytes that are like one. -/
def Part.isEquivalence : Part → Bool
  | .equivalent _ => true
  | _ => false

end ByteSet

/-- Bytes with each run of one member of a set made a single byte. -/
def squeeze (members : List UInt8) : Bytes → Bytes
  | [] => []
  | [b] => [b]
  | a :: b :: rest =>
    if a = b && members.contains a then squeeze members (b :: rest)
    else a :: squeeze members (b :: rest)

/-- What the words of the translating tool ask for, as a function on bytes, or a complaint. -/
def translation (parsed : Parsed) : Except String (Bytes → Bytes) :=
  let complemented := parsed.has 'c' || parsed.has 'C'
  let deleting := parsed.has 'd'
  let squeezing := parsed.has 's'
  let parts (word : String) : Except String (List ByteSet.Part) :=
    (ByteSet.ofWord word).mapError ByteSet.Fault.message
  let set (parts : List ByteSet.Part) : List UInt8 :=
    let members := ByteSet.members 0 parts
    if complemented then Pattern.allBytes.filter (!members.contains ·) else members
  let help (complaint : String) : Except String (Bytes → Bytes) := .error (withHelp "tr" complaint)
  let least := if deleting = squeezing then 2 else 1
  let most := if deleting && !squeezing then 1 else 2
  match parsed.operands, parsed.operands.drop most with
  | [], _ => help "tr: missing operand"
  | operands, extra :: _ =>
    help ("tr: extra operand " ++ quoteText extra ++ if operands.length = 2 then
      "\nOnly one string may be given when deleting without squeezing repeats." else "")
  | [first], [] => do
    if least = 2 then
      help ("tr: missing operand after " ++ quoteText first ++ "\nTwo strings must be given when "
        ++ if squeezing then "both deleting and squeezing repeats." else "translating.")
    else
      let one ← parts first
      if one.any (·.fills) then throw "tr: the [c*] repeat construct may not appear in string1"
      let one := set one
      return if deleting then (·.filter (!one.contains ·)) else squeeze one
  | first :: second :: _, [] => do
    let one ← parts first
    let two ← parts second
    if one.any (·.fills) then throw "tr: the [c*] repeat construct may not appear in string1"
    if 1 < two.countP (·.fills) then
      throw "tr: only one [c*] repeat construct may appear in string2"
    let from' := set one
    if deleting then
      if two.any (·.fills) then
        throw "tr: the [c*] construct may appear in string2 only when translating"
      return fun bytes => squeeze (ByteSet.members 0 two) (bytes.filter (!from'.contains ·))
    if two.any (·.isEquivalence) then
      throw "tr: [=c=] expressions may not appear in string2 when translating"
    if two.any (·.isOtherClass) then
      throw ("tr: when translating, the only character classes that may appear in\n"
        ++ "string2 are 'upper' and 'lower'")
    let room := from'.length - (ByteSet.members 0 two).length
    let onto := ByteSet.members room two
    let from' := if parsed.has 't' then from'.take onto.length else from'
    match onto.getLast? with
    | none =>
      if from'.isEmpty then return fun bytes => bytes
      else throw "tr: when not truncating set1, string2 must be non-empty"
    | some last =>
      let places := ByteSet.casePlaces room 0 two
      let given := ByteSet.casePlaces 0 0 one
      if !complemented && !places.all fun (n, _) => given.any (·.1 == n) then
        throw "tr: misaligned [:upper:] and/or [:lower:] construct"
      if onto.length < from'.length && two.getLast?.any (·.isClass) then
        throw ("tr: when translating with string1 longer than string2,\n"
          ++ "the latter string must not end with a character class")
      let filled := onto ++ List.replicate (from'.length - onto.length) last
      if complemented && one.any (·.isClass) && !(filled.take from'.length).all (· == last) then
        throw ("tr: when translating with complemented character classes,\n"
          ++ "string2 must map all characters in the domain to one")
      let table := (from'.zip filled).reverse
      let replace (bytes : Bytes) : Bytes := bytes.map fun b => (table.lookup b).getD b
      return fun bytes => if squeezing then squeeze onto (replace bytes) else replace bytes

/-- Replaces, removes or squeezes bytes of the input. -/
def trTool : Tool :=
  withOptions "tr" 1
    { flags := "cCdst"
      valued := ""
      long := [("complement", 'c'), ("delete", 'd'), ("squeeze-repeats", 's'),
        ("truncate-set1", 't')]
      leading := true }
    fun parsed run =>
      match translation parsed with
      | .error complaint => (1, run.complain complaint)
      | .ok f =>
        let (flow, run) := run.takeInput
        (0, run.pour ⟨f flow.bytes, f flow.cycle⟩)

end LineShell.Machine
