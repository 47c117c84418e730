import LineShell.Command.Parse
import LineShell.Proofs.Quote

/-!
# Trimming

Trimming takes away blanks at the ends of a text and nothing else: a text between two characters
that are not blank is what remains of it when blanks are put around it.
-/
namespace LineShell

namespace Text

/-- A text that neither begins nor ends with a blank. -/
def Trimmed (s : List Char) : Prop :=
  (∀ c ∈ s.head?, isBlank c = false) ∧ ∀ c ∈ s.getLast?, isBlank c = false

/-- A text of blanks only. -/
def AllBlank (s : List Char) : Prop :=
  ∀ c ∈ s, isBlank c = true

@[simp] theorem trimmed_nil : Trimmed [] := by simp [Trimmed]

@[simp] theorem allBlank_nil : AllBlank [] := by simp [AllBlank]

theorem dropEndWhile_append_of_pos {α : Type} {p : α → Bool} {t : List α} (h : ∀ a ∈ t, p a = true)
    (s : List α) : dropEndWhile p (s ++ t) = dropEndWhile p s := by
  rw [dropEndWhile, List.reverse_append, List.dropWhile_append_of_pos (by simpa using h)]
  rfl

theorem dropEndWhile_eq_self {α : Type} {p : α → Bool} {s : List α}
    (h : ∀ a ∈ s.getLast?, p a = false) : dropEndWhile p s = s := by
  rcases List.eq_nil_or_concat s with rfl | ⟨init, a, rfl⟩
  · rfl
  · have ha : p a = false := h a (by simp)
    simp [dropEndWhile_append_singleton, ha]

/-- What is left ends where the run that is cut off begins. -/
theorem getLast?_dropEndWhile {α : Type} {p : α → Bool} {s : List α} {a : α}
    (h : a ∈ (dropEndWhile p s).getLast?) : p a = false := by
  have hstop := List.head?_dropWhile_not p s.reverse
  rw [dropEndWhile, List.getLast?_reverse, Option.mem_def] at h
  rw [h] at hstop
  simpa using hstop

theorem trimEndChars_append_of_allBlank (s : List Char) {t : List Char} (h : AllBlank t) :
    trimEndChars (s ++ t) = trimEndChars s :=
  dropEndWhile_append_of_pos h s

theorem Trimmed.trimEndChars_eq {s : List Char} (h : Trimmed s) : trimEndChars s = s :=
  dropEndWhile_eq_self h.2

theorem Trimmed.trimStartChars_append {s : List Char} (h : Trimmed s) (hne : s ≠ [])
    (t : List Char) : trimStartChars (s ++ t) = s ++ t := by
  cases s with
  | nil => contradiction
  | cons c cs =>
    have hc : isBlank c = false := h.1 c (by simp)
    simp [trimStartChars, hc]

theorem trimStartChars_append_of_allBlank {s : List Char} (h : AllBlank s) (t : List Char) :
    trimStartChars (s ++ t) = trimStartChars t :=
  List.dropWhile_append_of_pos h

theorem trimChars_of_allBlank {s : List Char} (h : AllBlank s) : trimChars s = [] := by
  have hstart := trimStartChars_append_of_allBlank h []
  rw [List.append_nil] at hstart
  rw [trimChars, hstart]
  rfl

/-- Trimming a text with blanks around it. -/
theorem Trimmed.trimChars_eq {s lead tail : List Char} (h : Trimmed s) (hlead : AllBlank lead)
    (htail : AllBlank tail) : trimChars (lead ++ s ++ tail) = s := by
  by_cases hne : s = []
  · subst hne
    apply trimChars_of_allBlank
    intro c hc
    rw [List.append_nil, List.mem_append] at hc
    exact hc.elim (hlead c) (htail c)
  · rw [trimChars, List.append_assoc, trimStartChars_append_of_allBlank hlead,
      h.trimStartChars_append hne, trimEndChars_append_of_allBlank s htail, h.trimEndChars_eq]

theorem Trimmed.trim_eq {s : String} (h : Trimmed s.toList) : trim s = s := by
  have hs := h.trimChars_eq allBlank_nil allBlank_nil
  rw [List.nil_append, List.append_nil] at hs
  rw [trim, hs, String.ofList_toList]

theorem trimmed_of_ends {a b : Char} (ha : isBlank a = false) (hb : isBlank b = false)
    (s : List Char) : Trimmed (a :: s ++ [b]) := by
  constructor
  · simp [ha]
  · rw [List.getLast?_concat]
    simp [hb]

/-- Whatever stands between two trimmed texts, together they are trimmed. -/
theorem Trimmed.append {s t : List Char} (hs : Trimmed s) (hs' : s ≠ []) (ht : Trimmed t)
    (ht' : t ≠ []) (mid : List Char) : Trimmed (s ++ mid ++ t) := by
  obtain ⟨a, as, rfl⟩ := List.exists_cons_of_ne_nil hs'
  obtain ⟨bs, b, rfl⟩ := (List.eq_nil_or_concat t).resolve_left ht'
  have ha : isBlank a = false := hs.1 a (by simp)
  have hb : isBlank b = false := ht.2 b (by simp)
  simpa using trimmed_of_ends ha hb (as ++ mid ++ bs)

end Text

namespace Token

theorem isBlank_of_isSeparator {c : Char} (h : isSeparator c = true) : Text.isBlank c = true := by
  simp only [isSeparator, Bool.or_eq_true, beq_iff_eq] at h
  obtain (((rfl | rfl) | rfl) | rfl) | rfl := h <;> decide

theorem trimmed_enclose (s : List Char) : Text.Trimmed (enclose s) :=
  Text.trimmed_of_ends (by decide) (by decide) s

end Token

namespace Plan

theorem quote_notMem_bareText (part : List Char) : '"' ∉ (bareText part).toList := by
  rw [bareText, String.toList_ofList]
  exact Token.quote_notMem_unquote _

/-- The bare text of a part with blanks around it. -/
theorem bareText_eq {s lead tail : List Char} (h : Text.Trimmed s) (hlead : Text.AllBlank lead)
    (htail : Text.AllBlank tail) :
    bareText (lead ++ s ++ tail) = String.ofList (Token.unquote s) := by
  rw [bareText, h.trimChars_eq hlead htail]

end Plan
end LineShell
