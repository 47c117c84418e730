import LineShell.Command.Token
import Mathlib.Tactic.Common

/-!
# Quotes and words

Whether a quote is open after a text depends on the number of quotes in it alone. A word is a text
of bare characters and closed quoted spans; the front of a line is such a word exactly when what
follows cannot extend it, and no word at all exactly when its last quote stays open.
-/
namespace LineShell.Token

/-- Whether a quote is open after a text, given whether one is open in front of it. -/
def quoteOpen : Bool → List Char → Bool
  | quoted, [] => quoted
  | quoted, c :: cs => quoteOpen (quoted ^^ c == '"') cs

@[simp] theorem quoteOpen_nil (quoted : Bool) : quoteOpen quoted [] = quoted := rfl

@[simp] theorem quoteOpen_cons_quote (quoted : Bool) (cs : List Char) :
    quoteOpen quoted ('"' :: cs) = quoteOpen (!quoted) cs := by
  simp [quoteOpen]

theorem quoteOpen_cons_of_ne {c : Char} (h : c ≠ '"') (quoted : Bool) (cs : List Char) :
    quoteOpen quoted (c :: cs) = quoteOpen quoted cs := by
  have hflag : (c == '"') = false := beq_false_of_ne h
  simp [quoteOpen, hflag]

@[simp] theorem quoteOpen_append (quoted : Bool) (s t : List Char) :
    quoteOpen quoted (s ++ t) = quoteOpen (quoteOpen quoted s) t := by
  induction s generalizing quoted with
  | nil => rfl
  | cons c cs ih => exact ih _

/-- A quote is open after a text when the number of its quotes is odd. -/
theorem quoteOpen_eq_count (quoted : Bool) (s : List Char) :
    quoteOpen quoted s = (quoted ^^ decide (s.count '"' % 2 = 1)) := by
  induction s generalizing quoted with
  | nil => simp
  | cons c cs ih =>
    by_cases hc : c = '"'
    · subst hc
      have hmod : (cs.count '"' + 1) % 2 = 1 ↔ ¬ cs.count '"' % 2 = 1 := by omega
      rw [quoteOpen_cons_quote, ih, List.count_cons_self]
      by_cases h : cs.count '"' % 2 = 1 <;> cases quoted <;> simp [h, hmod]
    · rw [quoteOpen_cons_of_ne hc, ih, List.count_cons_of_ne hc]

theorem quoteOpen_of_notMem {s : List Char} (h : '"' ∉ s) (quoted : Bool) :
    quoteOpen quoted s = quoted := by
  rw [quoteOpen_eq_count, List.count_eq_zero_of_not_mem h]
  simp

@[simp] theorem unquote_nil : unquote [] = [] := rfl

@[simp] theorem unquote_append (s t : List Char) : unquote (s ++ t) = unquote s ++ unquote t :=
  List.filter_append s t

theorem unquote_cons_of_ne {c : Char} (h : c ≠ '"') (s : List Char) :
    unquote (c :: s) = c :: unquote s :=
  List.filter_cons_of_pos (bne_iff_ne.2 h)

theorem unquote_of_notMem {s : List Char} (h : '"' ∉ s) : unquote s = s := by
  rw [unquote, List.filter_eq_self]
  intro c hc
  have hne : c ≠ '"' := fun he => h (he ▸ hc)
  simpa using hne

theorem quote_notMem_unquote (s : List Char) : '"' ∉ unquote s := by
  simp [unquote]

/-- A text between double quotes. -/
def enclose (s : List Char) : List Char :=
  '"' :: s ++ ['"']

@[simp] theorem unquote_enclose {s : List Char} (h : '"' ∉ s) : unquote (enclose s) = s := by
  have := unquote_of_notMem h
  simpa [enclose, unquote] using this

theorem isSeparator_eq_false_of_isBare {c : Char} (h : isBare c = true) :
    isSeparator c = false := by
  simp only [isBare, Bool.and_eq_true, Bool.not_eq_true'] at h
  exact h.1.1

/-- Whether a text consists of bare characters and closed quoted spans; the flag tells whether a
quote is open in front of it. -/
def isWordText : Bool → List Char → Bool
  | quoted, [] => !quoted
  | true, c :: cs => isWordText (c != '"') cs
  | false, c :: cs => if c = '"' then isWordText true cs else isBare c && isWordText false cs

/-- A text that cannot extend a word in front of it. -/
def StopsWord (rest : List Char) : Prop :=
  ∀ c ∈ rest.head?, isBare c = false ∧ c ≠ '"'

@[simp] theorem stopsWord_nil : StopsWord [] := by
  simp [StopsWord]

@[simp] theorem stopsWord_cons {c : Char} {cs : List Char} :
    StopsWord (c :: cs) ↔ isBare c = false ∧ c ≠ '"' := by
  simp [StopsWord]

theorem stopsWord_of_isSeparator {s t : List Char} (hs : s ≠ [])
    (h : ∀ c ∈ s, isSeparator c = true) : StopsWord (s ++ t) := by
  cases s with
  | nil => contradiction
  | cons c cs =>
    have hc := h c (by simp)
    have hne : c ≠ '"' := by rintro rfl; exact absurd hc (by decide)
    simp [isBare, hc, hne]

/-- Taking a word off the front of itself and of what cannot extend it. -/
theorem splitWord_append_of_isWordText {quoted : Bool} {raw rest : List Char}
    (hw : isWordText quoted raw = true) (hr : StopsWord rest) :
    splitWord quoted (raw ++ rest) = some (raw, rest) := by
  induction raw generalizing quoted with
  | nil =>
    have hq : quoted = false := by simpa [isWordText] using hw
    subst hq
    cases rest with
    | nil => rfl
    | cons c cs =>
      obtain ⟨hb, hne⟩ := stopsWord_cons.1 hr
      simp [splitWord, hb, hne]
  | cons c cs ih =>
    cases quoted with
    | true =>
      simp only [isWordText] at hw
      simp [splitWord, ih hw]
    | false =>
      by_cases hc : c = '"'
      · simp only [isWordText, hc, if_true] at hw
        simp [splitWord, hc, ih hw]
      · simp only [isWordText, if_neg hc, Bool.and_eq_true] at hw
        simp [splitWord, hc, hw.1, ih hw.2]

/-- What is taken off is a word, and what is left cannot extend it. -/
theorem isWordText_of_splitWord {quoted : Bool} {s raw rest : List Char}
    (h : splitWord quoted s = some (raw, rest)) :
    isWordText quoted raw = true ∧ StopsWord rest := by
  induction s generalizing quoted raw with
  | nil =>
    cases quoted with
    | true => simp [splitWord] at h
    | false =>
      simp only [splitWord, Option.some.injEq, Prod.mk.injEq] at h
      obtain ⟨rfl, rfl⟩ := h
      exact ⟨rfl, stopsWord_nil⟩
  | cons c cs ih =>
    cases quoted with
    | true =>
      simp only [splitWord, Option.map_eq_some_iff, Prod.mk.injEq, Prod.exists] at h
      obtain ⟨raw', rest', hsplit, rfl, rfl⟩ := h
      simpa [isWordText] using ih hsplit
    | false =>
      rw [splitWord] at h
      split_ifs at h with hc hb
      · simp only [Option.map_eq_some_iff, Prod.mk.injEq, Prod.exists] at h
        obtain ⟨raw', rest', hsplit, rfl, rfl⟩ := h
        simpa [isWordText, hc] using ih hsplit
      · simp only [Option.map_eq_some_iff, Prod.mk.injEq, Prod.exists] at h
        obtain ⟨raw', rest', hsplit, rfl, rfl⟩ := h
        simpa [isWordText, hc, hb] using ih hsplit
      · simp only [Option.some.injEq, Prod.mk.injEq] at h
        obtain ⟨rfl, rfl⟩ := h
        exact ⟨rfl, by simp [hc, hb]⟩

/-- There is no word at the front only if a quote stays open up to the end. -/
theorem quoteOpen_of_splitWord_eq_none {quoted : Bool} {s : List Char}
    (h : splitWord quoted s = none) : quoteOpen quoted s = true := by
  induction s generalizing quoted with
  | nil =>
    cases quoted with
    | true => rfl
    | false => simp [splitWord] at h
  | cons c cs ih =>
    cases quoted with
    | true =>
      have hrest : splitWord (c != '"') cs = none := by simpa [splitWord] using h
      by_cases hc : c = '"'
      · simpa [hc] using ih hrest
      · have hflag : (c != '"') = true := bne_iff_ne.2 hc
        rw [hflag] at hrest
        rw [quoteOpen_cons_of_ne hc]
        exact ih hrest
    | false =>
      rw [splitWord] at h
      split_ifs at h with hc hb
      · have hrest : splitWord true cs = none := by simpa using h
        simpa [hc] using ih hrest
      · have hrest : splitWord false cs = none := by simpa using h
        simpa [hc, quoteOpen_cons_of_ne] using ih hrest

/-- No quote is open after a word. -/
theorem quoteOpen_of_isWordText {quoted : Bool} {raw : List Char}
    (h : isWordText quoted raw = true) : quoteOpen quoted raw = false := by
  induction raw generalizing quoted with
  | nil => simpa [isWordText] using h
  | cons c cs ih =>
    cases quoted with
    | true =>
      simp only [isWordText] at h
      by_cases hc : c = '"'
      · simpa [hc] using ih h
      · have hflag : (c != '"') = true := bne_iff_ne.2 hc
        rw [hflag] at h
        rw [quoteOpen_cons_of_ne hc]
        exact ih h
    | false =>
      by_cases hc : c = '"'
      · simp only [isWordText, hc, if_true] at h
        simpa [hc] using ih h
      · simp only [isWordText, if_neg hc, Bool.and_eq_true] at h
        simpa [hc, quoteOpen_cons_of_ne] using ih h.2

theorem isWordText_true_append_quote {s : List Char} (h : '"' ∉ s) :
    isWordText true (s ++ ['"']) = true := by
  induction s with
  | nil => rfl
  | cons c cs ih =>
    have hc : c ≠ '"' := fun he => h (by simp [he])
    have hcs : '"' ∉ cs := fun hm => h (by simp [hm])
    have hflag : (c != '"') = true := bne_iff_ne.2 hc
    rw [List.cons_append, isWordText, hflag]
    exact ih hcs

theorem isWordText_enclose {s : List Char} (h : '"' ∉ s) :
    isWordText false (enclose s) = true := by
  simpa [enclose, isWordText] using isWordText_true_append_quote h

end LineShell.Token
