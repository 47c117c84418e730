import LineShell.Machine.Tool.Pattern

/-!
# Matches of regular expressions

A match is the leftmost one, and of those that begin there the longest. Sets of places in a line are
numbers whose bits are the members: all places where a match may end are found at once.
-/
namespace LineShell.Machine

/-- A match: where it begins and ends, and what its groups matched. -/
structure Match where
  first : Nat
  last : Nat
  /-- Group numbers with beginnings and ends, the latest first. -/
  groups : List (Nat × Nat × Nat)

namespace Match

/-- The bytes that a group matched; group zero is the whole match. -/
def group (found : Match) (line : Array UInt8) (n : Nat) : Bytes :=
  if n = 0 then (line.extract found.first found.last).toList
  else
    match found.groups.lookup n with
    | some (a, b) => (line.extract a b).toList
    | none => []

end Match

def Place.holds (place : Place) (line : Array UInt8) (i : Nat) : Bool :=
  let before := 0 < i && isWordByte (line.getD (i - 1) 0)
  let after := i < line.size && isWordByte (line.getD i 0)
  match place with
  | .lineStart => i == 0
  | .lineEnd => i == line.size
  | .rowStart => i == 0 || line.getD (i - 1) 0 == 10
  | .rowEnd => i == line.size || line.getD i 0 == 10
  | .wordStart => !before && after
  | .wordEnd => before && !after
  | .wordEdge => before != after
  | .noWordEdge => before == after

namespace Pattern

/-- The set of places from one to the end of a line. -/
def placesFrom (line : Array UInt8) (i : Nat) : Nat :=
  (Nat.pow 2 (line.size + 1 - i) - 1) <<< i

/-- The set of places before the bytes that pass a test. -/
def placesBefore (line : Array UInt8) (test : UInt8 → Bool) : Nat :=
  line.foldr (fun b set => 2 * set + if test b then 1 else 0) 0

/-- A function applied a number of times. -/
def iterate (f : α → α) : Nat → α → α
  | 0, a => a
  | n + 1, a => iterate f n (f a)

/-- What grows out of a set by applying a function up to a number of times. -/
def closure (f : Nat → Nat) : Nat → Nat → Nat
  | 0, set => set
  | n + 1, set =>
    let grown := set ||| f set
    if grown = set then set else closure f n grown

/-- The places where matches end that begin at one of a set of places. What groups matched is not
known here, so what needs that may match anything. -/
def ends (line : Array UInt8) : Pattern → Nat → Nat
  | .never, _ => 0
  | .empty, set => set
  | .any, set => (set &&& placesBefore line fun _ => true) <<< 1
  | .oneOf members, set => (set &&& placesBefore line members.contains) <<< 1
  | .place kind, set =>
    set &&& ((List.range (line.size + 1)).foldr
      (fun i places => 2 * places + if kind.holds line i then 1 else 0) 0)
  | .sequence a b, set => b.ends line (a.ends line set)
  | .either a b, set => a.ends line set ||| b.ends line set
  | .repeated p least most, set =>
    let begun := iterate (p.ends line) least set
    closure (p.ends line) (most.elim (line.size + 1) (· - least)) begun
  | .group _ p, set => p.ends line set
  | .again _, set => closure (· <<< 1) (line.size + 1) set &&& placesFrom line 0

/-- A place that a match has come to, with what its groups matched. -/
abbrev Progress := Nat × List (Nat × Nat × Nat)

/-- Repeats a step as often as it can, then less often, until what follows accepts. -/
def repeatStep (step : Progress → (Progress → Option α) → Option α) :
    Nat → Nat → Option Nat → Progress → (Progress → Option α) → Option α
  | 0, _, _, at', next => next at'
  | fuel + 1, least, most, at', next =>
    let again :=
      if most = some 0 then none
      else
        step at' fun reached =>
          if reached.1 = at'.1 && least = 0 then none
          else repeatStep step fuel (least - 1) (most.map (· - 1)) reached next
    match again with
    | some result => some result
    | none => if least = 0 then next at' else none

/-- Matches an expression from a place on, and goes on with `next` at each place where a match may
end until that accepts. -/
def run (fold : Bool) (line : Array UInt8) :
    Pattern → Progress → (Progress → Option α) → Option α
  | .never, _, _ => none
  | .empty, p, next => next p
  | .any, (i, groups), next => if i < line.size then next (i + 1, groups) else none
  | .oneOf members, (i, groups), next =>
    if i < line.size && members.contains (line.getD i 0) then next (i + 1, groups) else none
  | .place kind, p, next => if kind.holds line p.1 then next p else none
  | .sequence a b, p, next => a.run fold line p fun p => b.run fold line p next
  | .either a b, p, next =>
    match a.run fold line p next with
    | some result => some result
    | none => b.run fold line p next
  | .repeated part least most, p, next =>
    repeatStep (part.run fold line) (line.size + least + 2) least most p next
  | .group n part, (i, groups), next =>
    part.run fold line (i, groups) fun (j, groups) => next (j, (n, i, j) :: groups)
  | .again n, (i, groups), next =>
    match groups.lookup n with
    | none => none
    | some (a, b) =>
      let text := (line.extract a b).toList
      let here := (line.extract i (i + (b - a))).toList
      let same := if fold then text.map lowerByte == here.map lowerByte else text == here
      if same then next (i + (b - a), groups) else none

/-- The match from one place to another, if there is one. -/
def matchBetween (fold : Bool) (pattern : Pattern) (line : Array UInt8) (first last : Nat) :
    Option Match :=
  pattern.run fold line (first, []) fun (j, groups) =>
    if j = last then some ⟨first, last, groups⟩ else none

/-- The longest match from a place on whose end is accepted; ends are tried from `last` down. -/
def longestAt (fold : Bool) (pattern : Pattern) (line : Array UInt8) (accept : Nat → Nat → Bool)
    (first set : Nat) : Nat → Option Match
  | 0 => none
  | count + 1 =>
    let last := first + count
    if set.testBit last && accept first last then
      match pattern.matchBetween fold line first last with
      | some found => some found
      | none => longestAt fold pattern line accept first set count
    else longestAt fold pattern line accept first set count

/-- The first match among those that begin in the next places. -/
def firstMatch (fold : Bool) (pattern : Pattern) (line : Array UInt8)
    (accept : Nat → Nat → Bool) : Nat → Nat → Option Match
  | 0, _ => none
  | count + 1, i =>
    match pattern.longestAt fold line accept i (pattern.ends line (1 <<< i)) (line.size + 1 - i) with
    | some found => some found
    | none => firstMatch fold pattern line accept count (i + 1)

/-- The leftmost match in a line from a place on that is accepted. -/
def find? (fold : Bool) (pattern : Pattern) (line : Array UInt8) (accept : Nat → Nat → Bool)
    (i : Nat) : Option Match :=
  if pattern.ends line (placesFrom line i) = 0 then none
  else pattern.firstMatch fold line accept (line.size + 1 - i) i

def occursIn (fold : Bool) (pattern : Pattern) (line : Array UInt8) : Bool :=
  if pattern.repeatsGroup then (pattern.find? fold line (fun _ _ => true) 0).isSome
  else pattern.ends line (placesFrom line 0) != 0

/-- The matches in a line from a place on that are not empty. -/
def allMatches (fold : Bool) (pattern : Pattern) (line : Array UInt8)
    (accept : Nat → Nat → Bool) : Nat → Nat → List Match
  | 0, _ => []
  | fuel + 1, i =>
    match pattern.find? fold line accept i with
    | none => []
    | some found =>
      if found.last = found.first then allMatches fold pattern line accept fuel (found.last + 1)
      else found :: allMatches fold pattern line accept fuel found.last

end Pattern
end LineShell.Machine
