import LineShell.Environment.Basic
import LineShell.Text.Alphanumeric
import LineShell.Text.Blank

/-!
# Definitions of variables

A definition is a name, an equals sign and a value, after an optional word `export`. A value may
have parts in quotes and refer to variables; single quotes keep everything, double quotes allow
escapes and references. A comment may follow after a blank.
-/
namespace LineShell.Environment

/-- The variables that were defined so far, beside those of the environment. -/
abbrev Defined := List (String × String)

/-- What the environment holds after a name and an equals sign. A name that has an equals sign
itself goes on into the value. -/
def heldAfter? (env : Environment) (name : List Char) : Option String := do
  let value ← env.get? (String.ofList (name.takeWhile (· ≠ '=')))
  match name.dropWhile (· ≠ '=') with
  | [] => return value
  | _ :: begun =>
    if (begun ++ ['=']).isPrefixOf value.toList then
      return String.ofList (value.toList.drop (begun.length + 1))
    else none

/-- The value of a variable: the environment comes before what was defined. -/
def value (env : Environment) (defined : Defined) (name : List Char) : List Char :=
  (((env.heldAfter? name).or (defined.lookup (String.ofList name))).getD "").toList

/-- The characters of a name that is referred to. -/
def isReferenceChar (c : Char) : Bool :=
  Text.isAlphanumeric c

/-- How far into a value a reader has got. -/
inductive ValueMode where
  | bare
  | strong
  | weak
  /-- After a backslash, `weak` or not. -/
  | escaped (weak : Bool)
  /-- In a reference; the name so far is kept in reverse. -/
  | reference (weak : Bool) (name : List Char)
  /-- In a reference between braces. -/
  | braced (weak : Bool) (name : List Char)
  /-- After a blank that ended the value. -/
  | ended

/-- The mode of text that is in double quotes or is not. -/
def ValueMode.plain (weak : Bool) : ValueMode :=
  if weak then .weak else .bare

/-- Reads a value from where a reader has got to. -/
def valueFrom (env : Environment) (defined : Defined) :
    ValueMode → List Char → Option (List Char)
  | .bare, [] | .escaped false, [] | .ended, [] => some []
  | .reference false name, [] => some (value env defined name.reverse)
  | _, [] => none
  | .ended, c :: cs =>
    if c = ' ' || c = '\t' then valueFrom env defined .ended cs
    else if c = '#' then some []
    else none
  | .escaped weak, c :: cs =>
    if ['\\', '\'', '"', '$', ' '].contains c then
      (valueFrom env defined (.plain weak) cs).map (c :: ·)
    else if c = 'n' then (valueFrom env defined (.plain weak) cs).map ('\n' :: ·)
    else none
  | .strong, c :: cs =>
    if c = '\'' then valueFrom env defined .bare cs
    else (valueFrom env defined .strong cs).map (c :: ·)
  | .reference weak name, c :: cs =>
    if isReferenceChar c then valueFrom env defined (.reference weak (c :: name)) cs
    else if c = '\x7b' && name.isEmpty then valueFrom env defined (.braced weak []) cs
    else if c = '$' then
      (valueFrom env defined (.reference weak []) cs).map (value env defined name.reverse ++ ·)
    else
      (valueFrom env defined (.plain weak) cs).map (value env defined name.reverse ++ c :: ·)
  | .braced weak name, c :: cs =>
    if c = '\x7d' then
      (valueFrom env defined (.plain weak) cs).map (value env defined name.reverse ++ ·)
    else valueFrom env defined (.braced weak (c :: name)) cs
  | .weak, c :: cs =>
    if c = '$' then valueFrom env defined (.reference true []) cs
    else if c = '"' then valueFrom env defined .bare cs
    else if c = '\\' then valueFrom env defined (.escaped true) cs
    else (valueFrom env defined .weak cs).map (c :: ·)
  | .bare, c :: cs =>
    if c = '$' then valueFrom env defined (.reference false []) cs
    else if c = '\'' then valueFrom env defined .strong cs
    else if c = '"' then valueFrom env defined .weak cs
    else if c = '\\' then valueFrom env defined (.escaped false) cs
    else if c = ' ' || c = '\t' then valueFrom env defined .ended cs
    else (valueFrom env defined .bare cs).map (c :: ·)

/-- The name at the front of a text, and what follows it without blanks at its start. -/
def splitName? (s : List Char) : Option (String × List Char) :=
  match s with
  | [] => none
  | c :: _ =>
    if c.isAlpha || c = '_' then
      let isNameChar := fun c : Char => c.isAlphanum || c = '_' || c = '.'
      some (String.ofList (s.takeWhile isNameChar),
        Text.trimStartChars (s.dropWhile isNameChar))
    else none

/-- What a line says: nothing, or a definition. There is no result for a line that says
neither. -/
def definition? (env : Environment) (defined : Defined) (line : List Char) :
    Option (Option (String × String)) := do
  let s := Text.trimStartChars (Text.trimEndChars line)
  if s.isEmpty || s.head? = some '#' then return none
  let (name, rest) ← splitName? s
  let (name, rest) ←
    if name = "export" && rest.head? != some '=' then splitName? rest else some (name, rest)
  if rest.head? != some '=' then none
  let rest := Text.trimStartChars rest.tail
  if rest.isEmpty || rest.head? = some '#' then return some (name, "")
  let value ← valueFrom env defined .bare rest
  return some (name, String.ofList value)

end LineShell.Environment
