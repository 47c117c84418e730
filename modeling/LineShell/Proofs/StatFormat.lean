import LineShell.Process.Stat
import LineShell.Proofs.Decimal
import LineShell.Proofs.Slices
import LineShell.Proofs.Tiling
import Mathlib.Algebra.Group.Int.Defs

/-!
# The format of a status line

A name in a status line may hold parentheses and anything else that a status line is made of. It is
found all the same: nothing in front of it has an opening parenthesis, nothing behind it a closing
one. So a line written from a process is read as this process, and every line that is read has the
form of one that is written, blanks and the spelling of the process id apart.
-/
namespace LineShell

namespace Text
variable {c : Char} {s before after : List Char} {n : ℕ}

theorem offsetOf?_of_notMem (h : c ∉ s) : offsetOf? c s = none := by
  induction s with
  | nil => rfl
  | cons d ds ih =>
    have hd : ¬ d = c := fun hdc => h (hdc ▸ List.mem_cons_self)
    simp [offsetOf?, hd, ih fun hmem => h (List.mem_cons_of_mem _ hmem)]

theorem lastOffsetOf?_of_notMem (h : c ∉ s) : lastOffsetOf? c s = none := by
  induction s with
  | nil => rfl
  | cons d ds ih =>
    have hd : ¬ d = c := fun hdc => h (hdc ▸ List.mem_cons_self)
    simp [lastOffsetOf?, hd, ih fun hmem => h (List.mem_cons_of_mem _ hmem)]

theorem offsetOf?_append_cons (h : c ∉ before) :
    offsetOf? c (before ++ c :: after) = some (byteLength before) := by
  induction before with
  | nil => simp [offsetOf?]
  | cons d ds ih =>
    have hd : ¬ d = c := fun hdc => h (hdc ▸ List.mem_cons_self)
    simp [offsetOf?, hd, ih fun hmem => h (List.mem_cons_of_mem _ hmem)]

theorem lastOffsetOf?_append_cons (h : c ∉ after) :
    lastOffsetOf? c (before ++ c :: after) = some (byteLength before) := by
  induction before with
  | nil => simp [lastOffsetOf?, lastOffsetOf?_of_notMem h]
  | cons d ds ih => simp [lastOffsetOf?, ih]

/-- The first character of its kind is the one with none in front of it. -/
theorem offsetOf?_eq_some_iff : offsetOf? c s = some n ↔
    ∃ before after, s = before ++ c :: after ∧ c ∉ before ∧ byteLength before = n := by
  constructor
  · intro h
    by_cases hc : c ∈ s
    · obtain ⟨before, after, rfl, hbefore⟩ := List.eq_append_cons_of_mem hc
      rw [offsetOf?_append_cons hbefore] at h
      exact ⟨before, after, rfl, hbefore, Option.some.inj h⟩
    · rw [offsetOf?_of_notMem hc] at h
      contradiction
  · rintro ⟨before, after, rfl, hbefore, rfl⟩
    exact offsetOf?_append_cons hbefore

/-- The last character of its kind is the one with none behind it. -/
theorem lastOffsetOf?_eq_some_iff : lastOffsetOf? c s = some n ↔
    ∃ before after, s = before ++ c :: after ∧ c ∉ after ∧ byteLength before = n := by
  constructor
  · intro h
    by_cases hc : c ∈ s
    · obtain ⟨front, back, hrev, hback⟩ := List.eq_append_cons_of_mem (List.mem_reverse.2 hc)
      have hs : s = back.reverse ++ c :: front.reverse := by
        rw [← List.reverse_reverse s, hrev]
        simp
      have hafter : c ∉ front.reverse := by simpa using hback
      rw [hs, lastOffsetOf?_append_cons hafter] at h
      exact ⟨back.reverse, front.reverse, hs, hafter, Option.some.inj h⟩
    · rw [lastOffsetOf?_of_notMem hc] at h
      contradiction
  · rintro ⟨before, after, rfl, hafter, rfl⟩
    exact lastOffsetOf?_append_cons hafter

theorem isBlank_of_isDigit (h : c.isDigit = true) : isBlank c = false := by
  have hle (a b : Char) : a ≤ b ↔ a.toNat ≤ b.toNat := Iff.rfl
  rw [Char.isDigit, Bool.and_eq_true, decide_eq_true_eq, decide_eq_true_eq] at h
  have hcodes : 48 ≤ c.toNat ∧ c.toNat ≤ 57 := h
  simp only [isBlank, Bool.or_eq_false_iff, Bool.and_eq_false_imp, beq_eq_false_iff_ne,
    decide_eq_true_eq, decide_eq_false_iff_not]
  omega

theorem trimStartChars_head?_eq_some_iff : (trimStartChars s).head? = some c ↔
    ∃ gap rest, s = gap ++ c :: rest ∧ AllBlank gap ∧ isBlank c = false := by
  constructor
  · intro h
    obtain ⟨rest, hrest⟩ := List.head?_eq_some_iff.1 h
    refine ⟨leadingBlanks s, rest, ?_, allBlank_leadingBlanks s, ?_⟩
    · rw [← hrest]
      exact List.takeWhile_append_dropWhile.symm
    · have hhead := List.head?_dropWhile_not isBlank s
      rw [trimStartChars] at h
      rw [h] at hhead
      exact hhead
  · rintro ⟨gap, rest, rfl, hgap, hc⟩
    rw [trimStartChars_append_of_allBlank hgap]
    simp [trimStartChars, hc]

end Text

/-- A numeral begins and ends with a digit or a sign. -/
theorem SpellsInt.trimmed {s : List Char} {m : ℤ} (h : SpellsInt s m) : Text.Trimmed s := by
  have hblank (c : Char) (hc : c ∈ s) : Text.isBlank c = false := by
    obtain hdigit | rfl | rfl := h.isDigit_or.2 c hc
    · exact Text.isBlank_of_isDigit hdigit
    · rfl
    · rfl
  exact ⟨fun c hc => hblank c (List.mem_of_mem_head? hc),
    fun c hc => hblank c (List.mem_of_mem_getLast? hc)⟩

namespace NamePlace
open Text (byteLength IsBoundary)
variable {line : List Char} {place : NamePlace}

@[simp] theorem utf8Size_opening : '('.utf8Size = 1 := rfl

@[simp] theorem utf8Size_closing : ')'.utf8Size = 1 := rfl

/-- Where the name of a line stands: the parenthesis in front of it is the first that opens, the one
behind it the last that closes. -/
theorem find?_eq_some_iff : find? line = some place ↔
    ∃ before name behind, line = before ++ '(' :: (name ++ ')' :: behind) ∧
      '(' ∉ before ∧ ')' ∉ behind ∧
      place = ⟨byteLength before, byteLength before + 1 + byteLength name⟩ := by
  simp only [find?, Option.bind_eq_bind, Option.bind_eq_some_iff, Text.offsetOf?_eq_some_iff,
    Text.lastOffsetOf?_eq_some_iff]
  constructor
  · rintro ⟨_, ⟨before, after, hline, hbefore, rfl⟩, _, ⟨before', behind, hline', hbehind, rfl⟩,
      hplace⟩
    split_ifs at hplace with hlt
    obtain rfl := Option.some.inj hplace
    rw [hline] at hline'
    obtain ⟨mid, rfl, hmid⟩ | ⟨mid, rfl, hmid⟩ := List.append_eq_append_iff.1 hline'
    · -- the name is what stands between the two
      cases mid with
      | nil => simp at hmid
      | cons d name =>
        obtain ⟨rfl, rfl⟩ := List.cons.inj hmid
        refine ⟨before, name, behind, hline, hbefore, hbehind, ?_⟩
        simp [Nat.add_assoc]
    · -- the closing parenthesis is not in front of the opening one
      cases mid with
      | nil => simp at hmid
      | cons d ds =>
        have hpos := d.utf8Size_pos
        simp only [Text.byteLength_append, Text.byteLength_cons] at hlt
        omega
  · rintro ⟨before, name, behind, hline, hbefore, hbehind, rfl⟩
    refine ⟨_, ⟨before, _, hline, hbefore, rfl⟩, _,
      ⟨before ++ '(' :: name, behind, by simpa using hline, hbehind, rfl⟩, ?_⟩
    have hle : ¬ byteLength (before ++ '(' :: name) < byteLength before := by simp
    rw [if_neg hle]
    simp [Nat.add_assoc]

variable {front name behind : List Char}

theorem before_eq (hline : line = front ++ '(' :: (name ++ ')' :: behind)) :
    before ⟨byteLength front, byteLength front + 1 + byteLength name⟩ line = front := by
  have hslice := Text.slice_append [] front ('(' :: (name ++ ')' :: behind))
  simpa [before, hline] using hslice

theorem name_eq (hline : line = front ++ '(' :: (name ++ ')' :: behind)) :
    NamePlace.name ⟨byteLength front, byteLength front + 1 + byteLength name⟩ line = name := by
  have hslice := Text.slice_append (front ++ ['(']) name (')' :: behind)
  simpa [NamePlace.name, hline] using hslice

theorem behind_eq (hline : line = front ++ '(' :: (name ++ ')' :: behind)) :
    NamePlace.behind ⟨byteLength front, byteLength front + 1 + byteLength name⟩ line = behind := by
  have hslice := Text.slice_append (front ++ '(' :: name ++ [')']) behind []
  simpa [NamePlace.behind, hline, Nat.add_assoc] using hslice

/-- The slices of a line around its name and of the name itself are runs of whole characters. -/
structure Within (place : NamePlace) (line : List Char) : Prop where
  opening : IsBoundary line place.opening
  start : IsBoundary line (place.opening + 1)
  closing : IsBoundary line place.closing
  stop : IsBoundary line (place.closing + 1)
  start_le_closing : place.opening + 1 ≤ place.closing
  stop_le_byteLength : place.closing + 1 ≤ byteLength line

theorem within_of_find? (h : find? line = some place) : place.Within line := by
  obtain ⟨before, name, behind, rfl, -, -, rfl⟩ := find?_eq_some_iff.1 h
  have opening := Text.isBoundary_byteLength_append before ('(' :: (name ++ ')' :: behind))
  have start := Text.isBoundary_byteLength_append (before ++ ['(']) (name ++ ')' :: behind)
  have closing := Text.isBoundary_byteLength_append (before ++ '(' :: name) (')' :: behind)
  have stop := Text.isBoundary_byteLength_append (before ++ '(' :: name ++ [')']) behind
  constructor
  · exact opening
  · simpa using start
  · simpa [Nat.add_assoc] using closing
  · simpa [Nat.add_assoc] using stop
  · simp
  · simp only [Text.byteLength_append, Text.byteLength_cons, utf8Size_opening, utf8Size_closing]
    omega

end NamePlace

/-- The parts of a status line. The blanks are the parts `lead`, `tail` and `gap`. -/
structure StatLine where
  lead : List Char
  numeral : List Char
  tail : List Char
  name : List Char
  gap : List Char
  letter : Char
  rest : List Char

namespace StatLine
open Text (AllBlank)

/-- What stands in front of the name. -/
def before (l : StatLine) : List Char :=
  l.lead ++ l.numeral ++ l.tail

def behind (l : StatLine) : List Char :=
  l.gap ++ l.letter :: l.rest

/-- The line that has these parts. -/
def chars (l : StatLine) : List Char :=
  l.before ++ '(' :: (l.name ++ ')' :: l.behind)

/-- The parts of a line that stand for the parts of a process. -/
structure Describes (l : StatLine) (p : ProcessInfo) : Prop where
  lead : AllBlank l.lead
  tail : AllBlank l.tail
  gap : AllBlank l.gap
  pid : SpellsInt l.numeral p.pid
  low : -2 ^ 31 ≤ p.pid
  high : p.pid < 2 ^ 31
  name : p.name.toList = l.name
  letter : Text.isBlank l.letter = false
  state : p.state = .ofLetter l.letter
  last : ')' ∉ l.letter :: l.rest

variable {l : StatLine} {p : ProcessInfo}

theorem Describes.notMem_before (h : l.Describes p) : '(' ∉ l.before := by
  have hblank {s : List Char} (hs : AllBlank s) : '(' ∉ s := fun hmem =>
    absurd (hs _ hmem) (by decide)
  have hnumeral : '(' ∉ l.numeral := fun hmem =>
    absurd (h.pid.isDigit_or.2 _ hmem) (by decide)
  simp [before, hblank h.lead, hblank h.tail, hnumeral]

theorem Describes.notMem_behind (h : l.Describes p) : ')' ∉ l.behind := by
  have hgap : ')' ∉ l.gap := fun hmem => absurd (h.gap _ hmem) (by decide)
  rw [behind, List.mem_append, not_or]
  exact ⟨hgap, h.last⟩

end StatLine

namespace ProcessInfo
open Text (byteLength)
variable {line : String} {p : ProcessInfo}

/-- The lines that are read as a process: those that have the form of a status line, with any
blanks around the process id and in front of the letter. -/
theorem ofStat?_eq_some_iff :
    ofStat? line = some p ↔ ∃ l : StatLine, line.toList = l.chars ∧ l.Describes p := by
  have hlimit : 0 < Nat.pow 2 31 := by decide
  have hpow : ((Nat.pow 2 31 : ℕ) : ℤ) = 2 ^ 31 := rfl
  simp only [ofStat?, Option.bind_eq_bind, Option.bind_eq_some_iff, NamePlace.find?_eq_some_iff,
    Numeral.readSigned?_eq_some_iff hlimit, Text.trimStartChars_head?_eq_some_iff, hpow]
  constructor
  · rintro ⟨_, ⟨before, name, behind, hline, -, hbehind, rfl⟩, pid, ⟨hpid, hlow, hhigh⟩, letter,
      ⟨gap, rest, hgap, hblank, hletter⟩, hp⟩
    obtain rfl := Option.some.inj hp
    rw [NamePlace.before_eq hline] at hpid
    rw [NamePlace.behind_eq hline] at hgap
    rw [NamePlace.name_eq hline]
    subst hgap
    have hbefore := Text.leadingBlanks_append_trimChars before
    refine ⟨⟨Text.leadingBlanks before, Text.trimChars before, Text.trailingBlanks before, name,
      gap, letter, rest⟩, ?_, ?_⟩
    · rw [StatLine.chars, StatLine.before, hbefore]
      exact hline
    · exact {
        lead := Text.allBlank_leadingBlanks before
        tail := Text.allBlank_trailingBlanks before
        gap := hblank
        pid := hpid
        low := hlow
        high := hhigh
        name := String.toList_ofList
        letter := hletter
        state := rfl
        last := fun hmem => hbehind (List.mem_append_right gap hmem) }
  · rintro ⟨l, hline, h⟩
    have hline' : line.toList = l.before ++ '(' :: (l.name ++ ')' :: l.behind) := hline
    refine ⟨_, ⟨l.before, l.name, l.behind, hline', h.notMem_before, h.notMem_behind, rfl⟩, p.pid,
      ?_, l.letter, ⟨l.gap, l.rest, ?_, h.gap, h.letter⟩, ?_⟩
    · rw [NamePlace.before_eq hline', StatLine.before, h.pid.trimmed.trimChars_eq h.lead h.tail]
      exact ⟨h.pid, h.low, h.high⟩
    · exact NamePlace.behind_eq hline'
    · rw [NamePlace.name_eq hline', ← h.name, String.ofList_toList, ← h.state]
      rfl

/-- A status line as it is written for a process. -/
def statLine (pid : ℤ) (name : String) (letter : Char) (rest : String) : String :=
  toString pid ++ " (" ++ name ++ ") " ++ letter.toString ++ rest

/-- A process is read back from its status line, whatever its name. In any line the slices around
the name are runs of whole characters, and only a line of this form is read. -/
theorem ofStat?_inverts :
    (∀ (pid : ℤ) (name : String) (letter : Char) (rest : String), -2 ^ 31 ≤ pid → pid < 2 ^ 31 →
      Text.isBlank letter = false → letter ≠ ')' → ')' ∉ rest.toList →
        ofStat? (statLine pid name letter rest) = some ⟨pid, name, .ofLetter letter⟩) ∧
      (∀ line place, NamePlace.find? line = some place → place.Within line) ∧
      ∀ (line : String) (p : ProcessInfo),
        ofStat? line = some p ↔ ∃ l : StatLine, line.toList = l.chars ∧ l.Describes p := by
  refine ⟨?_, fun _ _ => NamePlace.within_of_find?, fun _ _ => ofStat?_eq_some_iff⟩
  intro pid name letter rest hlow hhigh hblank hclose hrest
  refine ofStat?_eq_some_iff.2 ⟨⟨[], (toString pid).toList, [' '], name.toList, [' '], letter,
    rest.toList⟩, ?_, ?_⟩
  · simp [statLine, StatLine.chars, StatLine.before, StatLine.behind]
  · exact {
      lead := Text.allBlank_nil
      tail := by simp [Text.AllBlank]; decide
      gap := by simp [Text.AllBlank]; decide
      pid := spellsInt_toString pid
      low := hlow
      high := hhigh
      name := rfl
      letter := hblank
      state := rfl
      last := by simp [hrest, Ne.symm hclose] }

theorem ofStat?_statLine_of_parentheses :
    ofStat? (statLine 4242 "tmux: server) (x)" 'S' " 1 4242 4242 0 -1") =
      some ⟨4242, "tmux: server) (x)", .sleeping⟩ :=
  ofStat?_inverts.1 4242 "tmux: server) (x)" 'S' " 1 4242 4242 0 -1" (by decide) (by decide)
    (by decide) (by decide) (by decide)

end ProcessInfo
end LineShell
