/-!
# Scanning text

A scanner takes something off the front of a text, or fails and takes nothing. An alternative
starts again where the first choice started.
-/
namespace LineShell

/-- Takes a value off the front of a text, if one is there. -/
abbrev Scan := StateT (List Char) Option

namespace Scan

def peek? : Scan (Option Char) := do
  return (← get).head?

def satisfy (p : Char → Bool) : Scan Char := do
  match ← get with
  | c :: rest => if p c then set rest; return c else failure
  | [] => failure

def char (c : Char) : Scan Unit := do
  let _ ← satisfy (· == c)

def literal (s : String) : Scan Unit :=
  s.toList.forM char

/-- The longest run of characters that satisfy `p`, which may be empty. -/
def run (p : Char → Bool) : Scan (List Char) := do
  let s ← get
  set (s.dropWhile p)
  return s.takeWhile p

/-- The longest run of characters that satisfy `p`, which may not be empty. -/
def run1 (p : Char → Bool) : Scan (List Char) := do
  match ← run p with
  | [] => failure
  | cs => return cs

/-- Exactly `count` characters that satisfy `p`. -/
def exactly : Nat → (Char → Bool) → Scan (List Char)
  | 0, _ => return []
  | count + 1, p => do
    let c ← satisfy p
    return c :: (← exactly count p)

/-- As many of an item as there are, at most `limit`. -/
def manyUpTo : Nat → Scan α → Scan (List α)
  | 0, _ => return []
  | limit + 1, item =>
    (do
      let a ← item
      return a :: (← manyUpTo limit item))
    <|> return []

/-- As many of an item as there are. An item takes at least one character. -/
def many (item : Scan α) : Scan (List α) := do
  manyUpTo (← get).length item

def separated (item : Scan α) (separator : Scan Unit) : Scan (List α) := do
  let first ← item
  return first :: (← many (do separator; item))

def atEnd : Scan Unit := do
  if (← get).isEmpty then return () else failure

/-- What a scanner makes of a whole text. -/
def ofAll? (scan : Scan α) (s : List Char) : Option α :=
  match scan s with
  | some (a, []) => some a
  | _ => none

end Scan
end LineShell
