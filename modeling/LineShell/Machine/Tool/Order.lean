import LineShell.Machine.Tool.Count

/-!
# Orders of lines

The orders that lines can be sorted by. A line is compared by its keys, one after the other, and at
last as a whole.
-/
namespace LineShell.Machine

def isBlankByte (b : UInt8) : Bool :=
  b == 32 || b == 9

/-- A capital letter as a small one. -/
def lowerByte (b : UInt8) : UInt8 :=
  if 65 ≤ b && b ≤ 90 then b + 32 else b

/-- A small letter as a capital one. -/
def upperByte (b : UInt8) : UInt8 :=
  if 97 ≤ b && b ≤ 122 then b - 32 else b

def isDigitByte (b : UInt8) : Bool :=
  48 ≤ b && b ≤ 57

def isLetterByte (b : UInt8) : Bool :=
  97 ≤ lowerByte b && lowerByte b ≤ 122

def digitsValue (digits : Bytes) : Nat :=
  digits.foldl (fun n b => n * 10 + (b.toNat - 48)) 0

/-- A decimal number at the beginning of a text. -/
structure LeadingNumber where
  negative : Bool
  whole : Nat
  /-- The digits after the point, without zeros at the end. -/
  places : Bytes

/-- The decimal number that a text begins with, after blanks, and what follows it. -/
def leadingNumber (s : Bytes) : LeadingNumber × Bytes :=
  let s := s.dropWhile isBlankByte
  let (negative, s) := match s with
    | 45 :: s => (true, s)
    | s => (false, s)
  let whole := s.takeWhile isDigitByte
  match s.drop whole.length with
  | 46 :: rest =>
    let places := rest.takeWhile isDigitByte
    (⟨negative, digitsValue whole, (places.reverse.dropWhile (· == 48)).reverse⟩,
      rest.drop places.length)
  | rest => (⟨negative, digitsValue whole, []⟩, rest)

/-- Compares decimal numbers. -/
def LeadingNumber.compare (a b : LeadingNumber) : Ordering :=
  let isZero (n : LeadingNumber) : Bool := n.whole == 0 && n.places.isEmpty
  let size := (Ord.compare a.whole b.whole).then (Ord.compare a.places b.places)
  match a.negative && !isZero a, b.negative && !isZero b with
  | false, false => size
  | true, true => size.swap
  | true, false => .lt
  | false, true => .gt

/-- The rank of the unit of a size, negative for negative sizes. -/
def unitRank (s : Bytes) : Int :=
  let (n, rest) := leadingNumber s
  let units := Raw.encode "KMGTPEZYRQ"
  let rank := match rest with
    | [] => 0
    | b :: _ => (units.findIdx? (· == (if b = 107 then 75 else b))).elim 0 (· + 1)
  if n.whole = 0 && n.places.isEmpty then 0
  else if n.negative then -(rank : Int)
  else rank

/-- The number of the month that a text begins with, or zero. -/
def monthNumber (s : Bytes) : Nat :=
  let months :=
    ["JAN", "FEB", "MAR", "APR", "MAY", "JUN", "JUL", "AUG", "SEP", "OCT", "NOV", "DEC"]
  let start := ((s.dropWhile isBlankByte).take 3).map upperByte
  (months.findIdx? fun m => Raw.encode m == start).elim 0 (· + 1)

/-- A number with an exponent at the beginning of a text: none if there is none. Its value is
`mantissa * 10 ^ exponent`. -/
def scientific? (s : Bytes) : Option (Int × Int) :=
  let s := s.dropWhile isSpaceByte
  let (sign, s) : Int × Bytes := match s with
    | 45 :: s => (-1, s)
    | 43 :: s => (1, s)
    | s => (1, s)
  let whole := s.takeWhile isDigitByte
  let (places, rest) := match s.drop whole.length with
    | 46 :: rest => (rest.takeWhile isDigitByte, rest.dropWhile isDigitByte)
    | rest => ([], rest)
  let exponent : Int := match rest with
    | 69 :: 45 :: ds | 101 :: 45 :: ds => -(digitsValue (ds.takeWhile isDigitByte) : Int)
    | 69 :: 43 :: ds | 101 :: 43 :: ds => digitsValue (ds.takeWhile isDigitByte)
    | 69 :: ds | 101 :: ds => digitsValue (ds.takeWhile isDigitByte)
    | _ => 0
  if whole.isEmpty && places.isEmpty then none
  else some (sign * digitsValue (whole ++ places), exponent - places.length)

/-- Compares numbers with exponents; what is no number comes first. -/
def compareScientific (a b : Option (Int × Int)) : Ordering :=
  match a, b with
  | none, none => .eq
  | none, some _ => .lt
  | some _, none => .gt
  | some (m, e), some (n, f) =>
    let least := min e f
    compare (m * Nat.pow 10 (e - least).toNat) (n * Nat.pow 10 (f - least).toNat)

/-- The rank of a byte within a part of a version that has no digits. -/
def versionRank (b : UInt8) : Int :=
  if isDigitByte b then 0
  else if isLetterByte b then b.toNat
  else if b = 126 then -1
  else b.toNat + 256

/-- Compares two parts without digits; the end ranks like a digit. -/
def compareUndigited : Bytes → Bytes → Ordering
  | [], [] => .eq
  | a :: as, [] => (compare (versionRank a) 0).then (compareUndigited as [])
  | [], b :: bs => (compare 0 (versionRank b)).then (compareUndigited [] bs)
  | a :: as, b :: bs =>
    (compare (versionRank a) (versionRank b)).then (compareUndigited as bs)

/-- Compares versions, which consist of parts without and with digits in turn. -/
def compareVersions : Nat → Bytes → Bytes → Ordering
  | 0, _, _ => .eq
  | fuel + 1, a, b =>
    if a.isEmpty && b.isEmpty then .eq
    else
      let textA := a.takeWhile (!isDigitByte ·)
      let textB := b.takeWhile (!isDigitByte ·)
      let restA := a.drop textA.length
      let restB := b.drop textB.length
      let digitsA := restA.takeWhile isDigitByte
      let digitsB := restB.takeWhile isDigitByte
      match compareUndigited textA textB with
      | .eq =>
        match compare (digitsValue digitsA) (digitsValue digitsB) with
        | .eq => compareVersions fuel (restA.drop digitsA.length) (restB.drop digitsB.length)
        | order => order
      | order => order

/-- The length of a file name without the endings that do not count for its version. -/
def versionStem : List Bytes → Nat
  | [] => 0
  | [part] => part.length
  | parts =>
    let isEnding (part : Bytes) : Bool := match part with
      | [] => false
      | b :: rest =>
        (isLetterByte b || b == 126)
          && rest.all fun b => isLetterByte b || isDigitByte b || b == 126
    let kept := parts.length - (parts.tail.reverse.takeWhile isEnding).length
    (([46] : Bytes).intercalate (parts.take kept)).length

/-- Compares names of files by their versions. -/
def compareFileVersions (a b : Bytes) : Ordering :=
  let stem (s : Bytes) : Bytes := s.take (versionStem (s.splitOn 46))
  let hidden (s : Bytes) : Bool := s.head? == some 46
  if a = b then .eq
  else if a.isEmpty then .lt
  else if b.isEmpty then .gt
  else if hidden a != hidden b then (if hidden a then .lt else .gt)
  else
    let fuel := a.length + b.length + 1
    (compareVersions fuel (stem a) (stem b)).then (compareVersions fuel a b)

/-- A part of a line that lines are compared by, and how. -/
structure SortKey where
  /-- How many fields and then bytes come before it. -/
  startField : Nat
  startByte : Nat
  /-- The field that it ends in, counted from zero, and how many bytes of that belong to it, or zero
  for all. -/
  stop : Option (Nat × Nat)
  /-- Whether blanks are passed over before bytes are counted, at either end. -/
  startBlank : Bool
  stopBlank : Bool
  /-- The letters of its order. -/
  letters : List Char

namespace SortKey

/-- The key that is the whole line. -/
def whole (letters : List Char) : SortKey :=
  ⟨0, 0, none, letters.contains 'b', letters.contains 'b', letters.filter (· != 'b')⟩

/-- Whether a key says nothing about its order. -/
def isPlain (key : SortKey) : Bool :=
  key.letters.isEmpty && !key.startBlank && !key.stopBlank

/-- A key that says nothing about its order gets the order of another one. -/
def inherit (key general : SortKey) : SortKey :=
  if key.isPlain then
    { key with
      letters := general.letters
      startBlank := general.startBlank
      stopBlank := general.stopBlank }
  else key

/-- The letters of the order of a key that exclude each other. -/
def exclusive (key : SortKey) : List Bool :=
  [key.letters.contains 'n', key.letters.contains 'g', key.letters.contains 'h',
    key.letters.contains 'M', key.letters.any fun c => "VRdi".contains c]

def isInconsistent (key : SortKey) : Bool :=
  1 < key.exclusive.countP id

/-- The letters of the order of a key, as complaints name them. -/
def orderName (key : SortKey) : String :=
  let shown := "dfghiMnRV".toList.filter fun c =>
    key.letters.contains c && !(c = 'i' && key.letters.contains 'd')
  String.ofList shown

end SortKey

def skipFields (tab : Option UInt8) : Nat → Bytes → Bytes
  | 0, s => s
  | n + 1, s =>
    match tab with
    | some t => skipFields tab n ((s.dropWhile (· != t)).drop 1)
    | none => skipFields tab n ((s.dropWhile isBlankByte).dropWhile (!isBlankByte ·))

/-- The part of a line that a key means. -/
def SortKey.part (tab : Option UInt8) (key : SortKey) (line : Bytes) : Bytes :=
  let skipBlank (wanted : Bool) (s : Bytes) : Bytes :=
    if wanted then s.dropWhile isBlankByte else s
  let start := (skipBlank key.startBlank (skipFields tab key.startField line)).drop key.startByte
  match key.stop with
  | none => start
  | some (field, 0) =>
    let rest := match tab with
      | some t => (skipFields tab field line).dropWhile (· != t)
      | none => skipFields tab (field + 1) line
    start.take (start.length - rest.length)
  | some (field, count) =>
    let rest := (skipBlank key.stopBlank (skipFields tab field line)).drop count
    start.take (start.length - rest.length)

/-- What of a key counts. -/
def SortKey.reduce (key : SortKey) (s : Bytes) : Bytes :=
  let has := key.letters.contains
  let s :=
    if has 'd' then s.filter fun b => isBlankByte b || isDigitByte b || isLetterByte b
    else if has 'i' then s.filter fun b => 32 ≤ b && b < 127
    else s
  if has 'f' then s.map upperByte else s

/-- Compares two parts by the order of a key. -/
def SortKey.compare (key : SortKey) (a b : Bytes) : Ordering :=
  let has := key.letters.contains
  let order :=
    if has 'n' then (leadingNumber a).1.compare (leadingNumber b).1
    else if has 'g' then compareScientific (scientific? a) (scientific? b)
    else if has 'h' then
      (Ord.compare (unitRank a) (unitRank b)).then
        ((leadingNumber a).1.compare (leadingNumber b).1)
    else if has 'M' then Ord.compare (monthNumber a) (monthNumber b)
    else if has 'V' then compareFileVersions a b
    else Ord.compare a b
  if has 'r' then order.swap else order

/-- How lines are sorted. -/
structure SortOrder where
  tab : Option UInt8
  keys : List SortKey
  /-- Whether the whole lines decide at last, and whether the other way round. -/
  lastResort : Bool
  reverse : Bool

/-- A line with the parts that it is compared by. -/
def SortOrder.prepare (order : SortOrder) (line : Bytes) : List (SortKey × Bytes) × Bytes :=
  (order.keys.map fun key => (key, key.reduce (key.part order.tab line)), line)

/-- Compares parts of lines in turn. -/
def compareParts (a b : List (SortKey × Bytes)) : Ordering :=
  match a, b with
  | (key, x) :: as, (_, y) :: bs =>
    match key.compare x y with
    | .eq => compareParts as bs
    | order => order
  | _, _ => .eq

def SortOrder.compare (order : SortOrder) (a b : List (SortKey × Bytes) × Bytes) : Ordering :=
  match compareParts a.1 b.1 with
  | .eq =>
    if order.lastResort then
      let whole := Ord.compare a.2 b.2
      if order.reverse then whole.swap else whole
    else .eq
  | result => result

/-- The number at the beginning of a text, and what follows it. -/
def keyNumber (place : String) (s : List Char) : Except String (Nat × List Char) :=
  let digits := s.takeWhile Char.isDigit
  if digits.isEmpty then
    .error ("sort: invalid number " ++ place ++ ": invalid count at start of "
      ++ quoteText (String.ofList s))
  else .ok (digits.foldl (fun n c => n * 10 + (c.toNat - 48)) 0, s.drop digits.length)

/-- The number after a point, if there is one, and what follows it. -/
def keyOffset (s : List Char) : Except String (Option Nat × List Char) :=
  match s with
  | '.' :: rest => (keyNumber "after '.'" rest).map fun (n, rest) => (some n, rest)
  | s => .ok (none, s)

/-- The key that a word describes, as in `2.1n,3`. -/
def SortKey.ofWord (word : String) : Except String SortKey := do
  let isOrder (c : Char) : Bool := "bdfghiMnRrV".contains c
  let bad (what : String) : String :=
    "sort: " ++ what ++ ": invalid field specification " ++ quoteText word
  let (field, rest) ← keyNumber "at field start" word.toList
  if field = 0 then throw (bad "field number is zero")
  let (byte, rest) ← keyOffset rest
  if byte = some 0 then throw (bad "character offset is zero")
  let letters := rest.takeWhile isOrder
  let key : SortKey :=
    ⟨field - 1, byte.getD 1 - 1, none, letters.contains 'b', false, letters.filter (· != 'b')⟩
  match rest.drop letters.length with
  | [] => return key
  | ',' :: rest =>
    let (stopField, rest) ← keyNumber "after ','" rest
    if stopField = 0 then throw (bad "field number is zero")
    let (stopByte, rest) ← keyOffset rest
    if !rest.all isOrder then throw (bad "stray character in field spec")
    return { key with
      stop := some (stopField - 1, stopByte.getD 0)
      stopBlank := rest.contains 'b'
      letters := (letters ++ rest).filter (· != 'b') }
  | _ => throw (bad "stray character in field spec")

/-- The first pair of neighbours of which the second one should not come after the first one: the
second one with its place. -/
def firstDisorder (inOrder : α → α → Bool) : Nat → List α → Option (Nat × α)
  | n, a :: b :: rest =>
    if inOrder a b then firstDisorder inOrder (n + 1) (b :: rest) else some (n + 1, b)
  | _, _ => none

/-- Items without those that are like the one before. -/
def dropRepeats (same : α → α → Bool) : List α → List α
  | a :: b :: rest =>
    if same a b then dropRepeats same (a :: rest) else a :: dropRepeats same (b :: rest)
  | items => items
termination_by items => items.length

def sortTable : OptionTable where
  flags := "bdfghiMnRrVcCmsuz"
  valued := "ktoTSWPBY"
  optional := "X"
  long := [("ignore-leading-blanks", 'b'), ("dictionary-order", 'd'), ("ignore-case", 'f'),
    ("general-numeric-sort", 'g'), ("human-numeric-sort", 'h'), ("ignore-nonprinting", 'i'),
    ("month-sort", 'M'), ("numeric-sort", 'n'), ("random-sort", 'R'), ("reverse", 'r'),
    ("version-sort", 'V'), ("key", 'k'), ("field-separator", 't'), ("merge", 'm'),
    ("output", 'o'), ("stable", 's'), ("unique", 'u'), ("zero-terminated", 'z'),
    ("buffer-size", 'S'), ("temporary-directory", 'T'), ("parallel", 'P'), ("sort", 'W'),
    ("batch-size", 'B'), ("compress-program", 'Y'),
    ("check", 'X')]

/-- The byte between fields that a word stands for. -/
def tabOf (word : String) : Except String UInt8 :=
  match Raw.encode word with
  | [] => .error "sort: empty tab"
  | [b] => .ok b
  | [92, 48] => .ok 0
  | _ => .error ("sort: multi-character tab " ++ quoteText word)

/-- The words for orders, with their letters. -/
def sortWords : List (String × Char) :=
  [("general-numeric", 'g'), ("human-numeric", 'h'), ("month", 'M'), ("numeric", 'n'),
    ("random", 'R'), ("version", 'V')]

/-- The words for checks, with their letters; those of one list mean the same. -/
def sortChecks : List (List (String × Char)) :=
  [[("quiet", 'C'), ("silent", 'C')], [("diagnose-first", 'c')]]

/-- What is wrong with the first option of the sorting tool that is wrong, with the exit code. The
options before the one looked at are given. -/
def sortFault? : List (Char × String) → List (Char × String) → Option (Nat × String)
  | _, [] => none
  | before, (letter, value) :: rest =>
    let earlier (c : Char) : Option String := (before.find? (·.1 == c)).map (·.2)
    let number? (option : String) : Option String :=
      if value.toNat?.isNone then some ("invalid " ++ option ++ " argument " ++ quoteText value)
      else none
    let fault : Option (Nat × String) := match letter with
      | 't' =>
        match tabOf value with
        | .error complaint => some (2, complaint)
        | .ok tab =>
          if (earlier 't').any fun other => (tabOf other).toOption != some tab then
            some (2, "sort: incompatible tabs")
          else none
      | 'o' =>
        if (earlier 'o').any (· != value) then some (2, "sort: multiple output files specified")
        else none
      | 'k' =>
        match SortKey.ofWord value with
        | .error complaint => some (2, complaint)
        | .ok _ => none
      | 'W' =>
        match choice "sort" "--sort" (sortWords.map fun o => [o]) value with
        | .error complaint => some (1, complaint)
        | .ok _ => none
      | 'X' =>
        if value.isEmpty then none
        else
          match choice "sort" "--check" sortChecks value with
          | .error complaint => some (1, complaint)
          | .ok _ => none
      | 'P' =>
        match number? "--parallel" with
        | some complaint => some (2, "sort: " ++ complaint)
        | none => if value.toNat? = some 0 then some (2, "sort: number in parallel must be nonzero")
          else none
      | 'B' =>
        if value.toNat?.any (· < 2) then
          some (2, "sort: invalid --batch-size argument " ++ quoteText value
            ++ "\nsort: minimum --batch-size argument is '2'")
        else (number? "--batch-size").map fun complaint => (2, "sort: " ++ complaint)
      | 'S' =>
        let digits := value.toList.takeWhile Char.isDigit
        let unit := String.ofList (value.toList.drop digits.length)
        let units := ["", "%", "b", "k", "K", "m", "M", "G", "g", "T", "t", "P", "E", "Z", "Y"]
        if digits.isEmpty then some (2, "sort: invalid -S argument " ++ quoteText value)
        else if units.contains unit then none
        else some (2, "sort: invalid suffix in -S argument " ++ quoteText value)
      | _ =>
        let checks := (['c', 'C'].filter fun c => c = letter || (earlier c).isSome)
        if (letter = 'c' || letter = 'C') && checks.length = 2 then
          some (2, "sort: options '-cC' are incompatible")
        else none
    match fault with
    | some fault => some fault
    | none => sortFault? (before ++ [(letter, value)]) rest

/-- How the words of the sorting tool say that lines are sorted. -/
def SortOrder.ofParsed (parsed : Parsed) : Except String SortOrder := do
  let letters :=
    (parsed.options.map (·.1)).filter fun c => "bdfghiMnRrV".contains c
  let general := SortKey.whole letters
  let tab := (parsed.values 't').head?.bind fun word => (tabOf word).toOption
  let keys ← (parsed.values 'k').mapM fun word => (SortKey.ofWord word).map (·.inherit general)
  let plain := general.isPlain || letters.all (· == 'r')
  let keys := if !keys.isEmpty then keys else if plain then [] else [general]
  if let some key := keys.find? (·.isInconsistent) then
    throw ("sort: options '-" ++ key.orderName ++ "' are incompatible")
  let decided := !keys.isEmpty && parsed.hasAny "su"
  return ⟨tab, keys, !decided, letters.contains 'r'⟩

/-- How the sorting tool complains of an operand that it cannot read. -/
def cannotSort (name : String) (e : IoError) : String :=
  if e = .os .isDirectory then "sort: read failed: " ++ quoteLabel name ++ ": " ++ plainMessage e
  else "sort: cannot read: " ++ quoteLabel name ++ ": " ++ plainMessage e

/-- Writes the result of a tool to the file that an option names, or to the standard output. -/
def writeResult (tool : String) (target : Option String) (bytes : Bytes) (run : Run) : Nat × Run :=
  match target with
  | none => (0, run.write bytes)
  | some name =>
    match run.attempt fun fs => fs.update (run.resolve name) fun _ => bytes with
    | (.ok (), run) => (0, run)
    | (.error e, run) =>
      (2, run.complain (tool ++ ": open failed: " ++ name ++ ": " ++ plainMessage e))

/-- The options of the sorting tool with those that take a word made letters. -/
def sortLetters (parsed : Parsed) : Except String Parsed := do
  let options ← parsed.options.mapM fun (letter, value) =>
    match letter with
    | 'W' => (choice "sort" "--sort" (sortWords.map fun o => [o]) value).map fun c => (c, "")
    | 'X' =>
      if value.isEmpty then .ok ('c', "")
      else
        (choice "sort" "--check" sortChecks value).map fun c => (c, "")
    | _ => .ok (letter, value)
  return { parsed with options }

def sortTool : Tool :=
  withOptions "sort" 2 sortTable fun parsed run =>
    let read : Except (Nat × String) (Parsed × SortOrder) := do
      if let some fault := sortFault? [] parsed.options then throw fault
      let parsed ← (sortLetters parsed).mapError (1, ·)
      return (parsed, ← (SortOrder.ofParsed parsed).mapError (2, ·))
    match read with
    | .error (code, complaint) => (code, run.complain complaint)
    | .ok (parsed, order) =>
      let checks := ['c', 'C'].filter parsed.has
      match checks, parsed.operands.drop 1, parsed.value? 'o' with
      | c :: d :: _, _, _ =>
        (2, run.complain ("sort: options '-" ++ String.ofList [c, d] ++ "' are incompatible"))
      | c :: _, extra :: _, _ =>
        (2, run.complain ("sort: extra operand " ++ quoteText extra ++ " not allowed with -"
          ++ c.toString))
      | c :: _, [], some _ =>
        (2, run.complain ("sort: options '-" ++ c.toString ++ "o' are incompatible"))
      | _, _, _ =>
        let operands := operandsOrInput parsed.operands
        let complaint (name : String) (e : IoError) : String :=
          if !checks.isEmpty && e != .os .isDirectory then
            "sort: open failed: " ++ quoteLabel name ++ ": " ++ plainMessage e
          else cannotSort name e
        let missing := operands.findSome? fun name =>
          match run.read name with
          | .error e => if name = "-" || e = .os .isDirectory then none else some (name, e)
          | .ok _ => none
        let (flows, ok, run) := match missing with
          | some (name, e) => ([], false, run.complain (complaint name e))
          | none => readOperands complaint operands run
        let ending : UInt8 := if parsed.has 'z' then 0 else 10
        let files := flows.map fun (_, flow) => (piecesBy ending flow.bytes).map order.prepare
        let precedes (a b : List (SortKey × Bytes) × Bytes) : Bool := order.compare a b != .gt
        let same (a b : List (SortKey × Bytes) × Bytes) : Bool := order.compare a b == .eq
        if !ok then (2, run)
        else if !checks.isEmpty then
          let inOrder a b := precedes a b && !(parsed.has 'u' && same a b)
          match firstDisorder inOrder 1 files.flatten with
          | none => (0, run)
          | some (n, _, line) =>
            if parsed.has 'C' then (1, run)
            else
              let name := operands.headD "-"
              (1, run.complain ("sort: " ++ name ++ ":" ++ toString n ++ ": disorder: "
                ++ Raw.decode line))
        else
          let lines :=
            if parsed.has 'm' then files.foldl (fun all file => all.merge file precedes) []
            else files.flatten.mergeSort precedes
          let lines := if parsed.has 'u' then dropRepeats same lines else lines
          writeResult "sort" (parsed.value? 'o') (endBy ending (lines.map (·.2))) run

end LineShell.Machine
