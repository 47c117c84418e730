import LineShell.Proofs.Quote
import Mathlib.Data.List.TakeWhile

/-!
# How lexemes are laid out in a line

The relation `Laid` says of a text and a list of lexemes that the text is the gaps and the raw
texts of the lexemes in turn, each ended by what cannot extend it. Every text is laid out in one
way, and that is the way in which it is cut into lexemes.
-/
namespace LineShell

namespace Token

/-- The raw texts that stand for a token. -/
inductive Spells : Token → List Char → Prop
  | pipe : Spells .pipe ['|']
  | append : Spells .append ['>', '>']
  | write : Spells .write ['>']
  | read : Spells .read ['<']
  | background : Spells .background ['&']
  | word {raw : List Char} : raw ≠ [] → isWordText false raw = true →
      Spells (.word (String.ofList (unquote raw))) raw

/-- A text that cannot extend a token in front of it. -/
def Stops : Token → List Char → Prop
  | .word _, rest => StopsWord rest
  | .write, rest => rest.head? ≠ some '>'
  | _, _ => True

/-- The fault of a text whose quote stays open. -/
def faultOf (raw : List Char) : LexError :=
  if raw.head? = some '"' ∧ '"' ∉ raw.tail then .unterminatedString else .unknownToken

theorem Spells.ne_nil {t : Token} {raw : List Char} (h : Spells t raw) : raw ≠ [] := by
  cases h with
  | word hne _ => exact hne
  | _ => simp

/-- A raw text begins with no separator. -/
theorem Spells.isSeparator_eq_false {t : Token} {c : Char} {cs : List Char}
    (h : Spells t (c :: cs)) : isSeparator c = false := by
  cases h with
  | word _ hw =>
    by_cases hc : c = '"'
    · subst hc; decide
    · simp only [isWordText, if_neg hc, Bool.and_eq_true] at hw
      exact isSeparator_eq_false_of_isBare hw.1
  | _ => decide

theorem Spells.quoteOpen {t : Token} {raw : List Char} (h : Spells t raw) :
    Token.quoteOpen false raw = false := by
  cases h with
  | word _ hw => exact quoteOpen_of_isWordText hw
  | _ => decide

theorem front_of_isOperator_eq_false {c : Char} (h : isOperator c = false) (cs : List Char) :
    front c cs = frontWord c cs := by
  simp only [isOperator, Bool.or_eq_false_iff, beq_eq_false_iff_ne] at h
  obtain ⟨⟨⟨hpipe, hread⟩, hwrite⟩, hbackground⟩ := h
  rw [front] <;> simp_all

/-- A token is taken off the front of its raw text and of what cannot extend it. -/
theorem front_of_spells {t : Token} {c : Char} {cs rest : List Char} (h : Spells t (c :: cs))
    (hr : Stops t rest) : front c (cs ++ rest) = (.ok t, c :: cs, rest) := by
  cases h with
  | pipe => rfl
  | append => rfl
  | read => rfl
  | background => rfl
  | write =>
    cases rest with
    | nil => rfl
    | cons d ds =>
      have hd : d ≠ '>' := by simpa [Stops] using hr
      simp [front, hd]
  | word _ hw =>
    have hop : isOperator c = false := by
      by_cases hc : c = '"'
      · subst hc; decide
      · simp only [isWordText, if_neg hc, Bool.and_eq_true, isBare, Bool.not_eq_true'] at hw
        exact hw.1.1.2
    have hsplit := splitWord_append_of_isWordText hw hr
    rw [List.cons_append] at hsplit
    rw [front_of_isOperator_eq_false hop, frontWord, hsplit]

/-- What is taken off the front is the raw text of a token, or all of a text that is no word. -/
theorem front_cases {c : Char} (hc : isSeparator c = false) (cs : List Char) :
    (∃ t raw rest, front c cs = (.ok t, raw, rest) ∧ Spells t raw ∧ Stops t rest) ∨
      (splitWord false (c :: cs) = none ∧
        front c cs = (.error (faultOf (c :: cs)), c :: cs, [])) := by
  by_cases hop : isOperator c = true
  · left
    simp only [isOperator, Bool.or_eq_true, beq_iff_eq] at hop
    obtain ((rfl | rfl) | rfl) | rfl := hop
    · exact ⟨_, _, _, rfl, .pipe, trivial⟩
    · exact ⟨_, _, _, rfl, .read, trivial⟩
    · by_cases hcs : cs.head? = some '>'
      · obtain ⟨ds, rfl⟩ := List.head?_eq_some_iff.1 hcs
        exact ⟨_, _, _, rfl, .append, trivial⟩
      · refine ⟨.write, ['>'], cs, ?_, .write, hcs⟩
        simpa using front_of_spells (.write : Spells .write ['>']) hcs
    · exact ⟨_, _, _, rfl, .background, trivial⟩
  · rw [front_of_isOperator_eq_false (by simpa using hop), frontWord]
    cases hsplit : splitWord false (c :: cs) with
    | none => right; simp [faultOf]
    | some pair =>
      obtain ⟨raw, rest⟩ := pair
      obtain ⟨hw, hr⟩ := isWordText_of_splitWord hsplit
      exact .inl ⟨_, raw, rest, rfl,
        .word (splitWord_raw_ne_nil (by simpa using hop) hc hsplit) hw, hr⟩

end Token

namespace Lexeme

/-- A lexeme as it is written, with the gap in front of it. -/
def written (l : Lexeme) : List Char :=
  l.gap ++ l.raw

/-- Lexemes as they are written one after the other. -/
def flatten (ls : List Lexeme) : List Char :=
  ls.flatMap written

@[simp] theorem flatten_nil : flatten [] = [] := rfl

@[simp] theorem flatten_cons (l : Lexeme) (ls : List Lexeme) :
    flatten (l :: ls) = l.gap ++ l.raw ++ flatten ls := rfl

@[simp] theorem flatten_append (ls ms : List Lexeme) :
    flatten (ls ++ ms) = flatten ls ++ flatten ms := by
  simp [flatten]

/-- A text of separators only. -/
def IsGap (s : List Char) : Prop :=
  ∀ c ∈ s, Token.isSeparator c = true

@[simp] theorem isGap_nil : IsGap [] := by simp [IsGap]

/-- How a text is made of lexemes. -/
inductive Laid : List Char → List Lexeme → Prop
  | done {s : List Char} : IsGap s → Laid s []
  | token {gap raw rest : List Char} {t : Token} {ls : List Lexeme} :
      IsGap gap → t.Spells raw → t.Stops rest → Laid rest ls →
      Laid (gap ++ raw ++ rest) (⟨gap, raw, .ok t⟩ :: ls)
  | fault {gap raw : List Char} : IsGap gap → Token.splitWord false raw = none →
      raw.head?.any Token.isSeparator = false →
      Laid (gap ++ raw) [⟨gap, raw, .error (Token.faultOf raw)⟩]

theorem takeWhile_gap {gap s : List Char} (hg : IsGap gap)
    (hs : s.head?.any Token.isSeparator = false) :
    (gap ++ s).takeWhile Token.isSeparator = gap := by
  rw [List.takeWhile_append_of_pos hg]
  cases s with
  | nil => simp
  | cons c cs => simp_all

theorem dropWhile_gap {gap s : List Char} (hg : IsGap gap)
    (hs : s.head?.any Token.isSeparator = false) :
    (gap ++ s).dropWhile Token.isSeparator = s := by
  rw [List.dropWhile_append_of_pos hg]
  cases s with
  | nil => simp
  | cons c cs => simp_all

/-- Cutting a text of separators gives nothing. -/
theorem ofChars_of_isGap {s : List Char} (h : IsGap s) : ofChars s = [] := by
  have hdrop : s.dropWhile Token.isSeparator = [] := List.dropWhile_eq_nil_iff.2 h
  rw [ofChars]
  split
  · rfl
  · next hcons => rw [hdrop] at hcons; contradiction

/-- Cutting off the first lexeme. -/
theorem ofChars_gap_append {gap cs : List Char} {c : Char} (hg : IsGap gap)
    (hc : Token.isSeparator c = false) :
    ofChars (gap ++ c :: cs) =
      ⟨gap, (Token.front c cs).2.1, (Token.front c cs).1⟩ :: ofChars (Token.front c cs).2.2 := by
  have hdrop := dropWhile_gap (s := c :: cs) hg (by simpa using hc)
  rw [ofChars]
  split
  · next hnil => rw [hdrop] at hnil; contradiction
  · next d ds hcons =>
    rw [hdrop, List.cons.injEq] at hcons
    obtain ⟨rfl, rfl⟩ := hcons
    rw [takeWhile_gap hg (by simpa using hc)]

/-- A text is cut into the lexemes that it is made of. -/
theorem Laid.ofChars_eq {s : List Char} {ls : List Lexeme} (h : Laid s ls) : ofChars s = ls := by
  induction h with
  | done hg => exact ofChars_of_isGap hg
  | @token gap raw rest t ls hg hsp hst _ ih =>
    obtain ⟨c, cs, rfl⟩ := List.exists_cons_of_ne_nil hsp.ne_nil
    rw [List.append_assoc, List.cons_append, ofChars_gap_append hg hsp.isSeparator_eq_false,
      Token.front_of_spells hsp hst, ih]
  | @fault gap raw hg hnone hsep =>
    cases raw with
    | nil => simp [Token.splitWord] at hnone
    | cons c cs =>
      have hc : Token.isSeparator c = false := by simpa using hsep
      have hfront : Token.front c cs = (.error (Token.faultOf (c :: cs)), c :: cs, []) := by
        obtain ⟨t, raw, rest, hf, hsp, hst⟩ | ⟨-, hf⟩ := Token.front_cases hc cs
        · have happ := Token.front_append c cs
          rw [hf] at happ
          cases hsp with
          | word _ hw =>
            rw [← happ, Token.splitWord_append_of_isWordText hw hst] at hnone
            contradiction
          | _ => simp only [List.cons_append, List.cons.injEq] at happ
                 obtain ⟨rfl, -⟩ := happ
                 simp [Token.splitWord, Token.isBare, Token.isOperator] at hnone
        · exact hf
      rw [ofChars_gap_append hg hc, hfront, ofChars_of_isGap isGap_nil]

/-- Every text is made of the lexemes that it is cut into. -/
theorem laid_ofChars (s : List Char) : Laid s (ofChars s) := by
  induction s using ofChars.induct with
  | case1 s hdrop =>
    have hs : IsGap s := List.dropWhile_eq_nil_iff.1 hdrop
    rw [ofChars_of_isGap hs]
    exact .done hs
  | case2 s c cs hdrop _ ih =>
    have hg : IsGap (s.takeWhile Token.isSeparator) := fun c hc => List.mem_takeWhile_imp hc
    have hsplit := List.takeWhile_append_dropWhile (p := Token.isSeparator) (l := s)
    have hc := Token.isSeparator_of_dropWhile hdrop
    have happ := Token.front_append c cs
    rw [hdrop] at hsplit
    rw [← hsplit, ofChars_gap_append hg hc]
    obtain ⟨t, raw, rest, hf, hsp, hst⟩ | ⟨hnone, hf⟩ := Token.front_cases hc cs
    · rw [hf] at happ ih ⊢
      rw [← happ, ← List.append_assoc]
      exact .token hg hsp hst ih
    · rw [hf, ofChars_of_isGap isGap_nil]
      exact .fault hg hnone (by simpa using hc)

/-- Being made of lexemes and being cut into them are the same. -/
theorem laid_iff {s : List Char} {ls : List Lexeme} : Laid s ls ↔ ofChars s = ls :=
  ⟨Laid.ofChars_eq, fun h => h ▸ laid_ofChars s⟩

end Lexeme
end LineShell
