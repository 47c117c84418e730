import LineShell.Machine.Tool.Pattern

/-!
# Patterns for names

A star stands for any text, a question mark for any character, and brackets for one of a set.
-/
namespace LineShell.Machine

/-- A character, and whether it is protected from being taken for more than itself. -/
abbrev Glyph := Char × Bool

/-- Text without its protections. -/
def plainText (glyphs : List Glyph) : String :=
  String.ofList (glyphs.map (·.1))

/-- Whether text has a character that makes it a pattern. -/
def isPattern (glyphs : List Glyph) : Bool :=
  glyphs.any fun (c, isProtected) => !isProtected && ['*', '?', '['].contains c

/-- The characters of a named class. -/
def inClass (name : List Char) (c : Char) : Bool :=
  c.toNat < 128 &&
    (Pattern.classMembers (Raw.encode (String.ofList name))).contains c.toNat.toUInt8

/-- The members of a set in a pattern up to its end; the flag tells the first member. -/
def setOf : Nat → Bool → List Glyph → Option ((Char → Bool) × List Glyph)
  | 0, _, _ => none
  | _, _, [] => none
  | fuel + 1, first, (c, isProtected) :: rest =>
    if c = ']' && !isProtected && !first then some (fun _ => false, rest)
    else if c = '[' && !isProtected && rest.head? = some (':', false) then
      let name := (rest.tail.takeWhile (·.1 != ':')).map (·.1)
      (setOf fuel false (rest.tail.drop (name.length + 2))).map fun (f, rest) =>
        (fun d => inClass name d || f d, rest)
    else
      match rest with
      | ('-', false) :: (high, _) :: after =>
        if high = ']' then
          (setOf fuel false rest).map fun (f, rest) => (fun d => d = c || f d, rest)
        else
          (setOf fuel false after).map fun (f, rest) =>
            (fun d => (c ≤ d && d ≤ high) || f d, rest)
      | _ => (setOf fuel false rest).map fun (f, rest) => (fun d => d = c || f d, rest)

def glob : Nat → List Glyph → List Char → Bool
  | 0, _, _ => false
  | _, [], s => s.isEmpty
  | fuel + 1, ('*', false) :: rest, s =>
    glob fuel rest s || match s with
      | [] => false
      | _ :: cs => glob fuel (('*', false) :: rest) cs
  | fuel + 1, ('?', false) :: rest, s =>
    match s with
    | [] => false
    | _ :: cs => glob fuel rest cs
  | fuel + 1, ('[', false) :: rest, s =>
    let (negated, members) := match rest with
      | ('!', false) :: members | ('^', false) :: members => (true, members)
      | members => (false, members)
    match setOf (members.length + 1) true members, s with
    | some (holds, after), c :: cs => (holds c != negated) && glob fuel after cs
    | some _, [] => false
    | none, c :: cs => c = '[' && glob fuel rest cs
    | none, [] => false
  | fuel + 1, (p, _) :: rest, s =>
    match s with
    | [] => false
    | c :: cs => p = c && glob fuel rest cs

def matches? (pattern : List Glyph) (text : String) : Bool :=
  glob (pattern.length + 2 * text.length + 2) pattern text.toList

end LineShell.Machine
