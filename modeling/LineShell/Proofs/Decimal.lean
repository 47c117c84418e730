import LineShell.Text.Numeral
import Mathlib.Data.Int.Notation
import Mathlib.Tactic.Common

/-!
# Decimal numerals

The texts that are read as a number in the decimal system: digits, with a sign in front if one
likes and with any number of zeros. The number is the value of the digits, and it has to lie within
the limits. So every integer is read back from the way in which it is printed.
-/
namespace LineShell

/-- Digits of the decimal system, at least one, and their value. -/
def IsDecimal (digits : List Char) (n : ℕ) : Prop :=
  digits ≠ [] ∧ (∀ c ∈ digits, c.isDigit = true) ∧ Nat.ofDigitChars 10 digits 0 = n

/-- The ways to spell an integer in the decimal system. -/
inductive SpellsInt : List Char → ℤ → Prop
  | plain {digits : List Char} {n : ℕ} : IsDecimal digits n → SpellsInt digits n
  | plus {digits : List Char} {n : ℕ} : IsDecimal digits n → SpellsInt ('+' :: digits) n
  | minus {digits : List Char} {n : ℕ} : IsDecimal digits n → SpellsInt ('-' :: digits) (-(n : ℤ))

theorem isDecimal_toDigits (n : ℕ) : IsDecimal (Nat.toDigits 10 n) n :=
  ⟨Nat.toDigits_ne_nil, fun _ hc => Nat.isDigit_of_mem_toDigits (by decide) (by decide) hc,
    Nat.ofDigitChars_toDigits (by decide) (by decide)⟩

/-- An integer is spelled by the text that it is printed as. -/
theorem spellsInt_toString (n : ℤ) : SpellsInt (toString n).toList n := by
  have hdigits (m : ℕ) : IsDecimal m.repr.toList m := by
    rw [Nat.toList_repr]
    exact isDecimal_toDigits m
  cases n with
  | ofNat m => exact .plain (hdigits m)
  | negSucc m =>
    have hlist : (toString (Int.negSucc m)).toList = '-' :: (m + 1).repr.toList := by
      change ("-" ++ (m + 1).repr).toList = _
      rw [String.toList_append]
      rfl
    rw [hlist]
    exact .minus (hdigits (m + 1))

theorem IsDecimal.notMem {digits : List Char} {n : ℕ} (h : IsDecimal digits n) {c : Char}
    (hc : c.isDigit = false) : c ∉ digits := by
  intro hmem
  rw [h.2.1 c hmem] at hc
  contradiction

/-- A numeral has digits, and may have a sign in front. -/
theorem SpellsInt.isDigit_or {s : List Char} {n : ℤ} (h : SpellsInt s n) :
    s ≠ [] ∧ ∀ c ∈ s, c.isDigit = true ∨ c = '+' ∨ c = '-' := by
  cases h with
  | plain hdigits => exact ⟨hdigits.1, fun c hc => .inl (hdigits.2.1 c hc)⟩
  | plus hdigits =>
    exact ⟨List.cons_ne_nil _ _, List.forall_mem_cons.2
      ⟨.inr (.inl rfl), fun c hc => .inl (hdigits.2.1 c hc)⟩⟩
  | minus hdigits =>
    exact ⟨List.cons_ne_nil _ _, List.forall_mem_cons.2
      ⟨.inr (.inr rfl), fun c hc => .inl (hdigits.2.1 c hc)⟩⟩

theorem spellsInt_minus_iff {digits : List Char} {m : ℤ} :
    SpellsInt ('-' :: digits) m ↔ ∃ n : ℕ, IsDecimal digits n ∧ -(n : ℤ) = m := by
  constructor
  · intro h
    cases h with
    | plain hdigits => exact absurd List.mem_cons_self (hdigits.notMem (by decide))
    | minus hdigits => exact ⟨_, hdigits, rfl⟩
  · rintro ⟨n, hdigits, rfl⟩
    exact .minus hdigits

theorem spellsInt_iff_of_head?_ne {s : List Char} {m : ℤ} (hs : s.head? ≠ some '-') :
    SpellsInt s m ↔
      ∃ n : ℕ, (IsDecimal s n ∨ ∃ digits, s = '+' :: digits ∧ IsDecimal digits n) ∧
        (n : ℤ) = m := by
  constructor
  · intro h
    cases h with
    | plain hdigits => exact ⟨_, .inl hdigits, rfl⟩
    | plus hdigits => exact ⟨_, .inr ⟨_, rfl, hdigits⟩, rfl⟩
    | minus hdigits => exact absurd rfl hs
  · rintro ⟨n, hdigits | ⟨digits, rfl, hdigits⟩, rfl⟩
    · exact .plain hdigits
    · exact .plus hdigits

namespace Numeral
variable {limit value n : ℕ} {s : List Char}

/-- The digits of the decimal system. -/
theorem digitValue?_ten (c : Char) :
    digitValue? 10 c = if c.isDigit then some (c.toNat - '0'.toNat) else none := by
  have hle (a b : Char) : a ≤ b ↔ a.toNat ≤ b.toNat := Iff.rfl
  have hdigit : c.isDigit = true ↔ '0'.toNat ≤ c.toNat ∧ c.toNat ≤ '9'.toNat := by
    rw [Char.isDigit, Bool.and_eq_true, decide_eq_true_eq, decide_eq_true_eq]
    exact Iff.rfl
  have hcodes : '0'.toNat = 48 ∧ '9'.toNat = 57 ∧ 'a'.toNat = 97 ∧ 'f'.toNat = 102 ∧
      'A'.toNat = 65 ∧ 'F'.toNat = 70 := by decide
  obtain ⟨h0, h9, ha, hf, hA, hF⟩ := hcodes
  simp only [digitValue?, hle, hdigit, h0, h9, ha, hf, hA, hF]
  split_ifs <;> first | rfl | omega

theorem le_ofDigitChars (s : List Char) (value : ℕ) : value ≤ Nat.ofDigitChars 10 s value := by
  induction s generalizing value with
  | nil => exact Nat.le_refl value
  | cons c cs ih =>
    rw [Nat.ofDigitChars_cons]
    exact Nat.le_trans (by omega) (ih _)

/-- A text is read to its end if it has digits only and their value is below the limit. -/
theorem extend_ten_eq_ok_iff (hvalue : value < limit) :
    extend 10 limit value s = .ok n ↔
      (∀ c ∈ s, c.isDigit = true) ∧ Nat.ofDigitChars 10 s value = n ∧ n < limit := by
  induction s generalizing value with
  | nil =>
    have hlast : value = n ↔ value = n ∧ n < limit := by omega
    simpa [extend] using hlast
  | cons c cs ih =>
    rw [extend, digitValue?_ten, List.forall_mem_cons, Nat.ofDigitChars_cons, Nat.mul_comm 10 value]
    by_cases hc : c.isDigit = true
    · simp only [if_pos hc]
      split_ifs with hlt
      · rw [ih hlt, and_iff_right hc]
      · -- the value of further digits is no smaller
        have hle := le_ofDigitChars cs (value * 10 + (c.toNat - '0'.toNat))
        simp only [false_iff]
        omega
    · simp [hc]

theorem extend_eq_ok_iff_isDecimal (hs : s ≠ []) (hlimit : 0 < limit) :
    extend 10 limit 0 s = .ok n ↔ IsDecimal s n ∧ n < limit := by
  rw [extend_ten_eq_ok_iff hlimit, IsDecimal, and_iff_right hs, and_assoc]

/-- The texts that are read as a number below a limit. -/
theorem read_ten_eq_ok_iff (hlimit : 0 < limit) : read 10 limit s = .ok n ↔
    (IsDecimal s n ∨ ∃ digits, s = '+' :: digits ∧ IsDecimal digits n) ∧ n < limit := by
  have hplus (cs : List Char) : ¬ IsDecimal ('+' :: cs) n :=
    fun h => h.notMem (by decide) List.mem_cons_self
  have hempty : ¬ IsDecimal [] n := fun h => h.1 rfl
  cases s with
  | nil => simp [read, hempty]
  | cons c cs =>
    by_cases hc : c = '+'
    · subst hc
      cases cs with
      | nil => simp [read, hplus, hempty]
      | cons d ds =>
        rw [read, extend_eq_ok_iff_isDecimal (List.cons_ne_nil d ds) hlimit]
        · simp [hplus]
        · simp
    · have hread : read 10 limit (c :: cs) = extend 10 limit 0 (c :: cs) := by
        rw [read] <;> simp [hc]
      rw [hread, extend_eq_ok_iff_isDecimal (List.cons_ne_nil c cs) hlimit]
      simp [hc]

theorem map_toOption_eq_some_iff {e : Except NumeralError ℕ} {f : ℤ → ℤ} {m : ℤ} :
    (e.toOption.bind fun n => some (n : ℤ)).map f = some m ↔ ∃ n : ℕ, e = .ok n ∧ f n = m := by
  cases e <;> simp [Except.toOption]

theorem readSigned?_minus_eq_some_iff {m : ℤ} (hs : s ≠ []) :
    readSigned? limit ('-' :: s) = some m ↔
    ∃ n : ℕ, extend 10 (limit + 1) 0 s = .ok n ∧ -(n : ℤ) = m := by
  rw [readSigned?]
  · exact map_toOption_eq_some_iff
  · simpa using hs

theorem readSigned?_eq_some_iff_of_head?_ne {m : ℤ} (hs : s.head? ≠ some '-') :
    readSigned? limit s = some m ↔ ∃ n : ℕ, read 10 limit s = .ok n ∧ (n : ℤ) = m := by
  rw [readSigned?.eq_def]
  split
  · simp at hs
  · simp at hs
  · exact map_toOption_eq_some_iff

/-- The texts that are read as an integer within limits. -/
theorem readSigned?_eq_some_iff {m : ℤ} (hlimit : 0 < limit) :
    readSigned? limit s = some m ↔ SpellsInt s m ∧ -(limit : ℤ) ≤ m ∧ m < limit := by
  by_cases hminus : s.head? = some '-'
  · obtain ⟨digits, rfl⟩ := List.head?_eq_some_iff.1 hminus
    rw [spellsInt_minus_iff]
    by_cases hdigits : digits = []
    · subst hdigits
      have hnone (n : ℕ) : ¬ IsDecimal [] n := fun h => h.1 rfl
      simp [readSigned?, hnone]
    · rw [readSigned?_minus_eq_some_iff hdigits]
      simp only [extend_eq_ok_iff_isDecimal hdigits (Nat.succ_pos limit)]
      constructor
      · rintro ⟨n, ⟨hn, hlt⟩, rfl⟩
        exact ⟨⟨n, hn, rfl⟩, by omega, by omega⟩
      · rintro ⟨⟨n, hn, rfl⟩, hlow, -⟩
        exact ⟨n, ⟨hn, by omega⟩, rfl⟩
  · rw [readSigned?_eq_some_iff_of_head?_ne hminus, spellsInt_iff_of_head?_ne hminus]
    simp only [read_ten_eq_ok_iff hlimit]
    constructor
    · rintro ⟨n, ⟨hn, hlt⟩, rfl⟩
      exact ⟨⟨n, hn, rfl⟩, by omega, by omega⟩
    · rintro ⟨⟨n, hn, rfl⟩, -, hlt⟩
      exact ⟨n, ⟨hn, by omega⟩, rfl⟩

end Numeral
end LineShell
