import LineShell.Proofs.Settled
import Mathlib.Data.List.Forall2

/-!
# The spellings of a text

A character can be spelled in many ways: as itself, by a letter after a backslash, or by its code
point in hexadecimal digits, whose number is fixed by the letter before them or left open by braces.
However each character of a text is spelled, the spellings in a row decode to the text: every
spelling is settled, so none of them runs into the next.
-/
namespace LineShell

/-- A hexadecimal digit, small or capital, and its value. -/
def HexDigit (c : Char) (value : ℕ) : Prop :=
  value < 16 ∧ (c = value.digitChar ∨ c = value.digitChar.toUpper)

/-- A row of hexadecimal digits and the number that it stands for. -/
inductive HexNumeral : List Char → ℕ → Prop
  | nil : HexNumeral [] 0
  | snoc {digits : List Char} {n : ℕ} {c : Char} {value : ℕ} :
      HexNumeral digits n → HexDigit c value → HexNumeral (digits ++ [c]) (16 * n + value)

/-- The letters that stand for a character after a backslash, each with its character. -/
def letterEscapes : List (Char × Char) :=
  [('a', '\x07'), ('b', '\x08'), ('v', '\x0b'), ('f', '\x0c'), ('n', '\n'), ('r', '\r'),
    ('t', '\t'), ('e', '\x1b'), ('E', '\x1b'), ('0', '\x00'), ('\\', '\\'), ('\'', '\''),
    ('"', '"')]

/-- The ways to spell a character. -/
inductive Spells (c : Char) : List Char → Prop
  | itself : c ≠ '\\' → Spells c [c]
  | letter {k : Char} : (k, c) ∈ letterEscapes → Spells c ['\\', k]
  | two {digits : List Char} :
      digits.length = 2 → HexNumeral digits c.toNat → Spells c ('\\' :: 'x' :: digits)
  | four {digits : List Char} :
      digits.length = 4 → HexNumeral digits c.toNat → Spells c ('\\' :: 'u' :: digits)
  | eight {digits : List Char} :
      digits.length = 8 → HexNumeral digits c.toNat → Spells c ('\\' :: 'U' :: digits)
  | braced {digits : List Char} :
      digits ≠ [] → HexNumeral digits c.toNat →
        Spells c ('\\' :: 'u' :: '\x7b' :: (digits ++ ['\x7d']))

theorem HexDigit.digitValue?_eq {c : Char} {value : ℕ} (h : HexDigit c value) :
    Numeral.digitValue? 16 c = some value := by
  obtain ⟨hlt, hc⟩ := h
  have hsmall : ∀ v : Fin 16, Numeral.digitValue? 16 v.val.digitChar = some v.val := by decide
  have hcapital : ∀ v : Fin 16, Numeral.digitValue? 16 v.val.digitChar.toUpper = some v.val := by
    decide
  obtain rfl | rfl := hc
  · exact hsmall ⟨value, hlt⟩
  · exact hcapital ⟨value, hlt⟩

theorem Numeral.extend_append_singleton {radix limit value n : ℕ} {digits : List Char}
    (h : extend radix limit value digits = .ok n) (c : Char) :
    extend radix limit value (digits ++ [c]) = extend radix limit n [c] := by
  induction digits generalizing value with
  | nil =>
    rw [extend, Except.ok.injEq] at h
    rw [List.nil_append, h]
  | cons d ds ih =>
    rw [extend] at h
    rw [List.cons_append, extend]
    cases hd : digitValue? radix d with
    | none => simp [hd] at h
    | some digit =>
      simp only [hd] at h ⊢
      split_ifs at h ⊢ with hlt
      exact ih h

namespace HexNumeral
variable {digits : List Char} {n : ℕ}

theorem extend_eq {limit : ℕ} (h : HexNumeral digits n) (hn : n < limit) :
    Numeral.extend 16 limit 0 digits = .ok n := by
  induction h with
  | nil => rfl
  | @snoc digits n c value hdigits hc ih =>
    have hfront := ih (by omega)
    rw [Numeral.extend_append_singleton hfront, Numeral.extend, hc.digitValue?_eq]
    simp only
    rw [if_pos (by omega), Numeral.extend, Nat.mul_comm]

theorem exists_hexDigit (h : HexNumeral digits n) : ∀ c ∈ digits, ∃ value, HexDigit c value := by
  induction h with
  | nil => simp
  | snoc _ hc ih =>
    intro c hmem
    rcases List.mem_append.1 hmem with hmem | hmem
    · exact ih c hmem
    · rw [List.mem_singleton.1 hmem]
      exact ⟨_, hc⟩

theorem notMem (h : HexNumeral digits n) {c : Char} (hc : Numeral.digitValue? 16 c = none) :
    c ∉ digits := by
  intro hmem
  obtain ⟨value, hdigit⟩ := h.exists_hexDigit c hmem
  rw [hdigit.digitValue?_eq] at hc
  contradiction

theorem takeWhile_isHexDigit (h : HexNumeral digits n) :
    digits.takeWhile Escape.isHexDigit = digits := by
  rw [List.takeWhile_eq_self_iff]
  intro c hmem
  obtain ⟨value, hdigit⟩ := h.exists_hexDigit c hmem
  rw [Escape.isHexDigit, hdigit.digitValue?_eq]
  rfl

theorem read_eq {limit : ℕ} (h : HexNumeral digits n) (hne : digits ≠ []) (hn : n < limit) :
    Numeral.read 16 limit digits = .ok n := by
  have hplus : '+' ∉ digits := h.notMem (by decide)
  rw [Numeral.read.eq_def]
  split
  · contradiction
  · simp at hplus
  · simp at hplus
  · exact h.extend_eq hn

/-- The code point of a character is read as the character. -/
theorem ofHex_eq {c : Char} (h : HexNumeral digits c.toNat) (hne : digits ≠ []) :
    Escape.ofHex digits = .ok c := by
  have hlt : c.toNat < Nat.pow 2 32 := c.val.toNat_lt
  have hvalid : c.toNat.isValidChar := c.valid
  have hchar : Numeral.toChar? c.toNat = some c := by
    rw [Numeral.toChar?, if_pos hvalid, Char.ofNat_toNat]
  rw [Escape.ofHex, h.read_eq hne hlt]
  simp only [hchar]

theorem fixed_eq {c : Char} (h : HexNumeral digits c.toNat) (hne : digits ≠ []) :
    Escape.fixed digits.length digits = .ok c := by
  rw [Escape.fixed, List.take_length, h.takeWhile_isHexDigit, if_neg (lt_irrefl _), h.ofHex_eq hne]

/-- A fixed number of digits does not begin with a brace. -/
theorem head?_ne (h : HexNumeral digits n) : digits.head? ≠ some '\x7b' := by
  intro hhead
  exact h.notMem (by decide) (List.mem_of_head? hhead)

end HexNumeral

theorem letter?_of_mem_letterEscapes {k c : Char} (h : (k, c) ∈ letterEscapes) :
    Escape.letter? k = some c := by
  have hall : ∀ pair ∈ letterEscapes, Escape.letter? pair.1 = some pair.2 := by decide
  exact hall (k, c) h

/-- A spelling decodes to its character whatever follows it. -/
theorem Spells.settled {c : Char} {spelling : List Char} (h : Spells c spelling) :
    Escape.Settled spelling [c] := by
  have hwhole {k : Char} {digits : List Char} (hk : Escape.isCodepointKind k = true)
      (hread : Escape.codepoint k digits = (.ok c, digits.length)) :
      Escape.Settled ('\\' :: k :: digits) [c] := by
    have hsettled := Escape.Settled.codepoint hk hread le_rfl
    rwa [List.take_length] at hsettled
  cases h with
  | itself hne => exact .plain hne
  | letter hmem => exact .letter (letter?_of_mem_letterEscapes hmem)
  | @two digits hlength hdigits =>
    have hne : digits ≠ [] := List.ne_nil_of_length_eq_add_one hlength
    have hread : Escape.codepoint 'x' digits = (.ok c, 2) := by
      rw [← hdigits.fixed_eq hne, hlength]
      rfl
    exact hwhole (by decide) (hlength ▸ hread)
  | @four digits hlength hdigits =>
    have hne : digits ≠ [] := List.ne_nil_of_length_eq_add_one hlength
    have hread : Escape.codepoint 'u' digits = (.ok c, 4) := by
      rw [Escape.codepoint_plain hdigits.head?_ne, ← hdigits.fixed_eq hne, hlength]
    exact hwhole (by decide) (hlength ▸ hread)
  | @eight digits hlength hdigits =>
    have hne : digits ≠ [] := List.ne_nil_of_length_eq_add_one hlength
    have hread : Escape.codepoint 'U' digits = (.ok c, 8) := by
      rw [← hdigits.fixed_eq hne, hlength]
      rfl
    exact hwhole (by decide) (hlength ▸ hread)
  | @braced digits hne hdigits =>
    have hread := Escape.codepoint_closed (hdigits.notMem (by decide)) []
    rw [hdigits.ofHex_eq hne] at hread
    exact hwhole (by decide) (by simpa using hread)

/-- Spellings in a row are settled. -/
theorem settled_flatten_of_spells {s : List Char} {spellings : List (List Char)}
    (h : List.Forall₂ Spells s spellings) : Escape.Settled spellings.flatten s := by
  induction h with
  | nil => exact .nil
  | cons hc _ ih => exact hc.settled.append ih

/-- A text is decoded from whatever spellings of its characters. -/
theorem unescape_flatten_of_spells {text : String} {spellings : List (List Char)}
    (h : List.Forall₂ Spells text.toList spellings) :
    unescape (String.ofList spellings.flatten) = .ok text := by
  have hdecode := (settled_flatten_of_spells h).decode_eq
  rw [unescape, String.toList_ofList, hdecode]
  simp only [String.ofList_toList]

/-- Spellings that what follows seems to go on: a digit after two digits and after a zero, a brace
after four digits, and a letter after two backslashes. -/
theorem unescape_of_spellings_in_touch :
    let text := ['A', '4', '\x00', '1', '\u00ec', '\x7b', '\u20ac', '\\', 'x']
    let digits := ['0', '0', '0', '2', '0', 'a', 'C']
    let spellings : List (List Char) :=
      [['\\', 'x', '4', '1'], ['4'], ['\\', '0'], ['1'], ['\\', 'u', '0', '0', 'e', 'C'], ['\x7b'],
        '\\' :: 'u' :: '\x7b' :: (digits ++ ['\x7d']), ['\\', '\\'], ['x']]
    List.Forall₂ Spells text spellings ∧
      unescape "\\x414\\01\\u00eC\x7b\\u\x7b00020aC\x7d\\\\x" =
        .ok (String.ofList text) := by
  intro text digits spellings
  have small (value : Fin 16) : HexDigit value.val.digitChar value.val :=
    ⟨value.isLt, .inl rfl⟩
  have capital (value : Fin 16) : HexDigit value.val.digitChar.toUpper value.val :=
    ⟨value.isLt, .inr rfl⟩
  have hA : HexNumeral ['4', '1'] 65 := (HexNumeral.nil.snoc (small 4)).snoc (small 1)
  have hgrave : HexNumeral ['0', '0', 'e', 'C'] 236 :=
    (((HexNumeral.nil.snoc (small 0)).snoc (small 0)).snoc (small 14)).snoc (capital 12)
  have heuro : HexNumeral digits 8364 :=
    ((((((HexNumeral.nil.snoc (small 0)).snoc (small 0)).snoc (small 0)).snoc (small 2)).snoc
      (small 0)).snoc (small 10)).snoc (capital 12)
  have hspells : List.Forall₂ Spells text spellings :=
    .cons (.two rfl hA) <| .cons (.itself (by decide)) <| .cons (.letter (by decide)) <|
      .cons (.itself (by decide)) <| .cons (.four rfl hgrave) <| .cons (.itself (by decide)) <|
      .cons (.braced (List.cons_ne_nil _ _) heuro) <| .cons (.letter (by decide)) <|
      .cons (.itself (by decide)) .nil
  have hflatten : String.ofList spellings.flatten =
      "\\x414\\01\\u00eC\x7b\\u\x7b00020aC\x7d\\\\x" := by decide +kernel
  have hread : unescape (String.ofList spellings.flatten) = .ok (String.ofList text) :=
    unescape_flatten_of_spells (by rwa [String.toList_ofList])
  exact ⟨hspells, by rwa [hflatten] at hread⟩

end LineShell
