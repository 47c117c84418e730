import LineShell.Toml.Item
import LineShell.Toml.Text
import LineShell.Toml.Time

/-!
# Keys and values in TOML

A key has parts with dots between them. A value on one line may hold others; arrays may run over
several lines, inline tables may not. Nesting is limited.
-/
namespace LineShell.Toml

/-- The characters of a key without quotes. -/
def isBareKey (c : Char) : Bool :=
  c.isAlphanum || c == '-' || c == '_'

def keyPart : Scan String := do
  white
  let cs ← basicString <|> literalString <|> Scan.run1 isBareKey
  white
  return String.ofList cs

/-- How deep values may nest, and how many parts a key may have. -/
def maxDepth : Nat := 127

/-- A key: the parts before the last one, and the last one. -/
def key : Scan (List String × String) := do
  let parts ← Scan.separated keyPart (Scan.char '.')
  match parts.getLast? with
  | some last => if parts.length ≤ maxDepth then return (parts.dropLast, last) else failure
  | none => failure

/-- Puts an item under a key into an inline table. -/
def insertInline (path : List String) (key : String) (item : Item) (entries : Entries) :
    Option Entries :=
  match path with
  | [] => entries.insertNew? key item
  | part :: rest =>
    match entries.lookup part with
    | none => do
      let inner ← insertInline rest key item []
      return entries.set part (.inlineTable inner)
    | some (.inlineTable inner) => do
      let inner ← insertInline rest key item inner
      return entries.set part (.inlineTable inner)
    | some _ => none

/-- An inline table whose values are scanned by `value`. -/
def inlineTable (value : Scan Item) : Scan Item := do
  Scan.char '\x7b'
  let pair : Scan ((List String × String) × Item) := do
    let k ← key
    Scan.char '='
    white
    let v ← value
    white
    return (k, v)
  let pairs ← optional (Scan.separated pair (Scan.char ','))
  white
  Scan.char '\x7d'
  let entries ← StateT.lift <| (pairs.getD []).foldlM
    (fun entries ((path, key), item) => insertInline path key item entries) []
  return .inlineTable entries

def array (value : Scan Item) : Scan Item := do
  Scan.char '['
  let item : Scan Item := do
    spacing
    let v ← value
    spacing
    return v
  let items ← optional do
    let items ← Scan.separated item (Scan.char ',')
    let _ ← optional (Scan.char ',')
    return items
  spacing
  Scan.char ']'
  return .array (items.getD [])

def boolean : Scan Bool :=
  (do Scan.literal "true"; return true) <|> (do Scan.literal "false"; return false)

/-- A value in which at most `depth` levels of arrays and inline tables are nested. -/
def valueWithin (depth : Nat) : Scan Item :=
  (do return .string (← string))
  <|> (do return .boolean (← boolean))
  <|> (do dateTime; return .time)
  <|> (do float; return .float)
  <|> (do return .integer (← integer))
  <|>
    match depth with
    | 0 => failure
    | depth + 1 => array (valueWithin depth) <|> inlineTable (valueWithin depth)

def value : Scan Item :=
  valueWithin maxDepth

end LineShell.Toml
