import LineShell.Proofs.PlanShape

/-!
# Scanning a line for operators

The scan marks each character of a line with whether it stands outside quotes. It knows nothing of
tokens; still the operators that it sees are those that the line is cut at, as many of each kind and
with something between them exactly where there are words.
-/
namespace LineShell

namespace Token

/-- A character of a line, and whether it stands outside quotes. -/
abbrev Mark := Char × Bool

/-- The characters of a text, each with whether an even number of quotes stands in front of it. The
flag tells whether a quote is open in front of the text. -/
def marks : Bool → List Char → List Mark
  | _, [] => []
  | quoted, c :: cs => (c, !quoted) :: marks (quoted ^^ c == '"') cs

@[simp] theorem marks_nil (quoted : Bool) : marks quoted [] = [] := rfl

@[simp] theorem marks_append (quoted : Bool) (s t : List Char) :
    marks quoted (s ++ t) = marks quoted s ++ marks (quoteOpen quoted s) t := by
  induction s generalizing quoted with
  | nil => rfl
  | cons c cs ih => exact congrArg _ (ih _)

@[simp] theorem map_fst_marks (quoted : Bool) (s : List Char) :
    (marks quoted s).map (·.1) = s := by
  induction s generalizing quoted with
  | nil => rfl
  | cons c cs ih => exact congrArg _ (ih _)

/-- The number of redirections among marks: a run of `>` is cut into pairs and a possible last one
alone. -/
def redirections : List Mark → ℕ
  | ('>', true) :: ('>', true) :: ms => redirections ms + 1
  | ('>', true) :: ms => redirections ms + 1
  | ('<', true) :: ms => redirections ms + 1
  | _ :: ms => redirections ms
  | [] => 0

def isRedirectionMark (m : Mark) : Bool :=
  m.2 && (m.1 == '>' || m.1 == '<')

def NoOperator (ms : List Mark) : Prop :=
  ∀ m ∈ ms, m.2 = true → isOperator m.1 = false

instance (ms : List Mark) : Decidable (NoOperator ms) :=
  inferInstanceAs (Decidable (∀ m ∈ ms, m.2 = true → isOperator m.1 = false))

theorem NoOperator.notMem {ms : List Mark} (h : NoOperator ms) {c : Char}
    (hc : isOperator c = true) : (c, true) ∉ ms := by
  intro hm
  have hfalse : isOperator c = false := h _ hm rfl
  rw [hc] at hfalse
  contradiction

theorem NoOperator.count_append {ms : List Mark} (h : NoOperator ms) {c : Char}
    (hc : isOperator c = true) (ns : List Mark) :
    (ms ++ ns).count (c, true) = ns.count (c, true) := by
  rw [List.count_append, List.count_eq_zero.2 (h.notMem hc), Nat.zero_add]

theorem NoOperator.append {ms ns : List Mark} (hm : NoOperator ms) (hn : NoOperator ns) :
    NoOperator (ms ++ ns) :=
  fun m h => (List.mem_append.1 h).elim (hm m) (hn m)

theorem NoOperator.isRedirectionMark_eq_false {ms : List Mark} (h : NoOperator ms) {m : Mark}
    (hm : m ∈ ms) : isRedirectionMark m = false := by
  obtain ⟨c, outside⟩ := m
  cases outside with
  | false => rfl
  | true =>
    have hop : isOperator c = false := h _ hm rfl
    simp only [isOperator, Bool.or_eq_false_iff] at hop
    simp [isRedirectionMark, hop]

theorem redirections_append_of_noOperator {ms : List Mark} (h : NoOperator ms) (ns : List Mark) :
    redirections (ms ++ ns) = redirections ns := by
  induction ms with
  | nil => rfl
  | cons m ms ih =>
    have hm := h.isRedirectionMark_eq_false List.mem_cons_self
    have hms : NoOperator ms := fun m' hm' => h m' (List.mem_cons_of_mem m hm')
    rw [List.cons_append, redirections, ih hms]
    all_goals
      intros
      simp_all [isRedirectionMark]

theorem noOperator_marks_of_isGap {s : List Char} (h : Lexeme.IsGap s) (quoted : Bool) :
    NoOperator (marks quoted s) := by
  intro m hm _
  have hmem : m.1 ∈ s := by
    rw [← map_fst_marks quoted s]
    exact List.mem_map_of_mem hm
  have hsep := h _ hmem
  simp only [isSeparator, Bool.or_eq_true, beq_iff_eq] at hsep
  obtain (((hc | hc) | hc) | hc) | hc := hsep <;> rw [hc] <;> decide

/-- Operators stand in a word between quotes only. -/
theorem noOperator_marks_of_isWordText {quoted : Bool} {raw : List Char}
    (h : isWordText quoted raw = true) : NoOperator (marks quoted raw) := by
  induction raw generalizing quoted with
  | nil => simp [NoOperator]
  | cons c cs ih =>
    intro m hm
    rw [marks, List.mem_cons] at hm
    cases quoted with
    | true =>
      obtain rfl | hm := hm
      · simp
      · rw [isWordText] at h
        rw [Bool.true_xor] at hm
        exact ih h m hm
    | false =>
      by_cases hc : c = '"'
      · rw [isWordText, if_pos hc] at h
        obtain rfl | hm := hm
        · subst hc; decide
        · exact ih h m (by simpa [hc] using hm)
      · rw [isWordText, if_neg hc, Bool.and_eq_true] at h
        obtain rfl | hm := hm
        · have hbare := h.1
          simp only [isBare, Bool.and_eq_true, Bool.not_eq_true'] at hbare
          simp [hbare]
        · have hflag : (c == '"') = false := beq_false_of_ne hc
          exact ih h.2 m (by simpa [hflag] using hm)

/-- The marks of a raw text: an operator as it is written, or no operator. -/
theorem Spells.marks_cases {t : Token} {raw : List Char} (h : Spells t raw) :
    (t = .pipe ∧ marks false raw = [('|', true)]) ∨
      (t = .background ∧ marks false raw = [('&', true)]) ∨
      (t = .append ∧ marks false raw = [('>', true), ('>', true)]) ∨
      (t = .write ∧ marks false raw = [('>', true)]) ∨
      (t = .read ∧ marks false raw = [('<', true)]) ∨
      ((∃ w, t = .word w) ∧ NoOperator (marks false raw)) := by
  cases h with
  | word _ hw => simp [noOperator_marks_of_isWordText hw]
  | _ => simp [marks]

/-- Nothing is joined to a `>` that is a token. -/
theorem redirections_cons_write {rest : List Char} (h : rest.head? ≠ some '>') :
    redirections (('>', true) :: marks false rest) = redirections (marks false rest) + 1 := by
  cases rest with
  | nil => rfl
  | cons c cs =>
    have hc : c ≠ '>' := by simpa using h
    simp [marks, redirections, hc]

end Token

namespace Lexeme
open Token (marks Mark NoOperator redirections)

/-- The marks of a line are those of its gaps, its raw texts and what follows them. -/
theorem marks_of_spells {gap raw : List Char} {t : Token} (hg : IsGap gap) (hsp : t.Spells raw)
    (rest : List Char) :
    marks false (gap ++ raw ++ rest) = marks false gap ++ marks false raw ++ marks false rest := by
  simp [quoteOpen_of_isGap hg, hsp.quoteOpen]

/-- As many operators of each kind are seen in a line as there are among its tokens. -/
theorem Laid.counts {s : List Char} {ls : List Lexeme} (h : Laid s ls) (hf : NoFault ls) :
    (marks false s).count ('|', true) = (tokens ls).count .pipe ∧
      (marks false s).count ('&', true) = (tokens ls).count .background ∧
      redirections (marks false s) = (tokens ls).countP Token.isRedirection := by
  have hbar : Token.isOperator '|' = true := by decide
  have hamp : Token.isOperator '&' = true := by decide
  induction h with
  | @done s hg =>
    have hplain := Token.noOperator_marks_of_isGap hg false
    have hredir := Token.redirections_append_of_noOperator hplain []
    have hpipe := hplain.count_append hbar []
    have hback := hplain.count_append hamp []
    rw [List.append_nil] at hpipe hback hredir
    exact ⟨hpipe, hback, hredir⟩
  | @token gap raw rest t ls hg hsp hst _ ih =>
    obtain ⟨hpipe, hback, hredir⟩ := ih ((noFault_cons_ok gap raw t ls).1 hf)
    have hgap := Token.noOperator_marks_of_isGap hg false
    rw [marks_of_spells hg hsp, List.append_assoc, hgap.count_append hbar, hgap.count_append hamp,
      Token.redirections_append_of_noOperator hgap, tokens_cons_ok, List.count_cons,
      List.count_cons, List.countP_cons, ← hpipe, ← hback, ← hredir]
    obtain ⟨rfl, hr⟩ | ⟨rfl, hr⟩ | ⟨rfl, hr⟩ | ⟨rfl, hr⟩ | ⟨rfl, hr⟩ | ⟨⟨w, rfl⟩, hr⟩ :=
      hsp.marks_cases
    · simp [hr, Token.isRedirection, redirections]
    · simp [hr, Token.isRedirection, redirections]
    · simp [hr, Token.isRedirection, redirections]
    · simp [hr, Token.isRedirection, Token.redirections_cons_write hst]
    · simp [hr, Token.isRedirection, redirections]
    · rw [hr.count_append hbar, hr.count_append hamp, Token.redirections_append_of_noOperator hr]
      simp [Token.isRedirection]
  | fault => simp at hf

/-- A line has no tokens when there is nothing in it but separators. -/
theorem Laid.tokens_eq_nil_iff {s : List Char} {ls : List Lexeme} (h : Laid s ls)
    (hf : NoFault ls) : tokens ls = [] ↔ IsGap s := by
  cases h with
  | done hg => simpa using hg
  | @token gap raw rest t ls hg hsp _ _ =>
    obtain ⟨c, cs, rfl⟩ := List.exists_cons_of_ne_nil hsp.ne_nil
    have hc : Token.isSeparator c = false := hsp.isSeparator_eq_false
    have hmem : c ∈ gap ++ (c :: cs) ++ rest := by simp
    constructor
    · intro ht
      simp at ht
    · intro hgap
      rw [hgap c hmem] at hc
      contradiction
  | fault => simp at hf

theorem splitOn_append_of_notMem {α : Type} [BEq α] [LawfulBEq α] {a : α} {us : List α}
    (h : a ∉ us) (vs : List α) :
    (us ++ vs).splitOn a = (vs.splitOn a).modifyHead (us ++ ·) := by
  induction us with
  | nil => cases hv : vs.splitOn a <;> simp [hv]
  | cons u us ih =>
    have hu : (u == a) = false := beq_false_of_ne fun he => h (he ▸ List.mem_cons_self)
    have hus := ih fun hm => h (List.mem_cons_of_mem u hm)
    rw [List.cons_append, List.splitOn_cons_eq_if_modifyHead, hu, hus]
    simp [Function.comp_def]

def BlankMarks (ms : List Mark) : Prop :=
  ∀ m ∈ ms, Token.isSeparator m.1 = true

instance (ms : List Mark) : Decidable (BlankMarks ms) :=
  inferInstanceAs (Decidable (∀ m ∈ ms, Token.isSeparator m.1 = true))

theorem blankMarks_marks {quoted : Bool} {s : List Char} :
    BlankMarks (marks quoted s) ↔ IsGap s := by
  have h := List.forall_mem_map (l := marks quoted s) (f := (·.1))
    (P := (Token.isSeparator · = true))
  rw [Token.map_fst_marks] at h
  exact h.symm

/-- The pieces of a line between its unquoted pipes are blank exactly where a stage has no
tokens. -/
theorem Laid.splitOn_marks {s : List Char} {ls : List Lexeme} (h : Laid s ls) (hf : NoFault ls) :
    List.Forall₂ (fun piece stage => BlankMarks piece ↔ stage = [])
      ((marks false s).splitOn ('|', true)) ((tokens ls).splitOn .pipe) := by
  have hbar : Token.isOperator '|' = true := by decide
  induction h with
  | @done s hg =>
    have hplain := (Token.noOperator_marks_of_isGap hg false).notMem hbar
    rw [List.splitOn_eq_singleton hplain]
    exact .cons (by simpa [blankMarks_marks] using hg) .nil
  | @token gap raw rest t ls hg hsp _ _ ih =>
    have hrest := ih ((noFault_cons_ok gap raw t ls).1 hf)
    have hgap := (Token.noOperator_marks_of_isGap hg false).notMem hbar
    rw [marks_of_spells hg hsp, tokens_cons_ok]
    by_cases ht : t = .pipe
    · subst ht
      cases hsp
      have hmarks : marks false ['|'] = [('|', true)] := by decide
      rw [hmarks, List.append_assoc, List.singleton_append,
        List.splitOn_append_cons_self_of_not_mem hgap, List.splitOn_cons_eq_if_modifyHead,
        if_pos (beq_self_eq_true _)]
      exact .cons (by simpa [blankMarks_marks] using hg) hrest
    · have hraw : ('|', true) ∉ marks false raw := by
        obtain ⟨rfl, -⟩ | ⟨-, hr⟩ | ⟨-, hr⟩ | ⟨-, hr⟩ | ⟨-, hr⟩ | ⟨-, hr⟩ := hsp.marks_cases
        · exact absurd rfl ht
        · simp [hr]
        · simp [hr]
        · simp [hr]
        · simp [hr]
        · exact hr.notMem hbar
      have hfront : ('|', true) ∉ marks false gap ++ marks false raw := by
        simp [hgap, hraw]
      have hfilled (piece : List Mark) :
          ¬ BlankMarks (marks false gap ++ marks false raw ++ piece) := by
        intro hblank
        obtain ⟨c, cs, rfl⟩ := List.exists_cons_of_ne_nil hsp.ne_nil
        have hc : Token.isSeparator c = false := hsp.isSeparator_eq_false
        have hm := hblank (c, true) (by simp [marks])
        rw [hc] at hm
        contradiction
      rw [splitOn_append_of_notMem hfront, List.splitOn_cons_eq_if_modifyHead,
        if_neg (by simpa using ht)]
      generalize (marks false rest).splitOn ('|', true) = pieces at hrest ⊢
      generalize (tokens ls).splitOn Token.pipe = stages at hrest ⊢
      cases hrest with
      | nil => exact .nil
      | cons _ htail => exact .cons (iff_of_false (hfilled _) (List.cons_ne_nil _ _)) htail
  | fault => simp at hf

/-- A line is cut by the scan at the first operator that follows words. In front of it, there are
only blanks if there are no words. -/
theorem Laid.cut {s gap raw : List Char} {op : Token} {before after : List Lexeme}
    {us : List String} (h : Laid s (before ++ ⟨gap, raw, .ok op⟩ :: after)) (hf : NoFault before)
    (hu : tokens before = us.map .word) :
    ∃ rest, s = flatten before ++ gap ++ raw ++ rest ∧
      marks false s = marks false (flatten before ++ gap) ++ (marks false raw ++ marks false rest) ∧
      NoOperator (marks false (flatten before ++ gap)) ∧
      (BlankMarks (marks false (flatten before ++ gap)) ↔ us = []) ∧
      op.Spells raw ∧ op.Stops rest ∧ Laid rest after := by
  induction before generalizing s us with
  | nil =>
    obtain ⟨rest, rfl, hg, hsp, hst, hrest⟩ := h.token_inv
    have hus : us = [] := by simpa using hu.symm
    refine ⟨rest, rfl, ?_, Token.noOperator_marks_of_isGap hg false, ?_, hsp, hst, hrest⟩
    · rw [marks_of_spells hg hsp, List.append_assoc]
      rfl
    · simpa [hus, blankMarks_marks] using hg
  | cons l before ih =>
    obtain ⟨gap₁, raw₁, e | t⟩ := l
    · simp at hf
    · obtain ⟨rest₁, rfl, hg₁, hsp₁, -, hrest₁⟩ := h.token_inv
      cases us with
      | nil => simp at hu
      | cons w us =>
        simp only [tokens_cons_ok, List.map_cons, List.cons.injEq] at hu
        obtain ⟨rfl, hu⟩ := hu
        obtain ⟨rest, rfl, hmarks, hplain, -, hsp, hst, hrest⟩ :=
          ih hrest₁ ((noFault_cons_ok gap₁ raw₁ (.word w) before).1 hf) hu
        have hword : NoOperator (marks false raw₁) := by
          cases hsp₁ with
          | word _ hw => exact Token.noOperator_marks_of_isWordText hw
        have hfront : flatten (⟨gap₁, raw₁, .ok (.word w)⟩ :: before) ++ gap =
            gap₁ ++ raw₁ ++ (flatten before ++ gap) := by simp
        refine ⟨rest, by simp, ?_, ?_, ?_, hsp, hst, hrest⟩
        · rw [hfront, marks_of_spells hg₁ hsp₁, marks_of_spells hg₁ hsp₁, hmarks]
          simp
        · rw [hfront, marks_of_spells hg₁ hsp₁]
          exact ((Token.noOperator_marks_of_isGap hg₁ false).append hword).append hplain
        · obtain ⟨c, cs, rfl⟩ := List.exists_cons_of_ne_nil hsp₁.ne_nil
          have hc : Token.isSeparator c = false := hsp₁.isSeparator_eq_false
          refine iff_of_false (fun hgap => ?_) (List.cons_ne_nil _ _)
          rw [hfront, blankMarks_marks] at hgap
          rw [hgap c (by simp)] at hc
          contradiction

end Lexeme
end LineShell
