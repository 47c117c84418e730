/-!
# Tables and values in TOML

Tables remember how they came about, because a table may only be added to in the way in which it
was made.
-/
namespace LineShell.Toml

/-- What a key stands for. Floats and times are known to be well formed, and no more. -/
inductive Item where
  | string (s : String)
  | integer (n : Int)
  | boolean (b : Bool)
  | float
  | time
  | array (items : List Item)
  /-- A table written between braces. -/
  | inlineTable (entries : List (String × Item))
  /-- A table with a header of its own, or made on the way to another one: by a longer header
  (`implicit`) or by a dotted key (`implicit` and `dotted`). -/
  | table (implicit dotted : Bool) (entries : List (String × Item))
  /-- The tables that share a header in double brackets, and their entries. -/
  | tables (each : List (List (String × Item)))
  deriving Inhabited

/-- Keys with what they stand for. -/
abbrev Entries := List (String × Item)

/-- Entries in which a key stands for a given item. -/
def Entries.set (entries : Entries) (key : String) (item : Item) : Entries :=
  entries.filter (·.1 != key) ++ [(key, item)]

/-- Entries with a new key; a key that is there already is a fault. -/
def Entries.insertNew? (entries : Entries) (key : String) (item : Item) : Option Entries :=
  match entries.lookup key with
  | some _ => none
  | none => some (entries ++ [(key, item)])

end LineShell.Toml
