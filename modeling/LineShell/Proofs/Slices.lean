import LineShell.Proofs.PlanShape
import LineShell.Proofs.Trim

/-!
# The text of a redirection and its words

The characters between the first word of a line and its redirection are read twice: as the words of
the command, and as the text that is sliced from the line. The characters behind the redirection are
read as words as well, and sliced as the target. Separators apart, both readings have the same
characters in the same order, except at the ends of a slice: trimming takes every blank off them,
also a blank that separates no words and is a character of one.
-/
namespace LineShell

namespace Text

/-- The blanks at the start of a text. -/
def leadingBlanks (s : List Char) : List Char :=
  s.takeWhile isBlank

/-- The blanks at the end of a text that are not at its start too. -/
def trailingBlanks (s : List Char) : List Char :=
  ((trimStartChars s).reverse.takeWhile isBlank).reverse

theorem allBlank_leadingBlanks (s : List Char) : AllBlank (leadingBlanks s) :=
  fun _ hc => List.mem_takeWhile_imp hc

theorem allBlank_trailingBlanks (s : List Char) : AllBlank (trailingBlanks s) := by
  intro c hc
  rw [trailingBlanks, List.mem_reverse] at hc
  exact List.mem_takeWhile_imp hc

/-- What trimming takes away and what it leaves make up the text. -/
theorem leadingBlanks_append_trimChars (s : List Char) :
    leadingBlanks s ++ trimChars s ++ trailingBlanks s = s := by
  have hend : trimChars s ++ trailingBlanks s = trimStartChars s :=
    dropEndWhile_append_takeEnd isBlank (trimStartChars s)
  rw [List.append_assoc, hend]
  exact List.takeWhile_append_dropWhile

theorem quote_notMem_of_allBlank {s : List Char} (h : AllBlank s) : '"' ∉ s :=
  fun hq => absurd (h _ hq) (by decide)

end Text

namespace Token

def word? : Token → Option String
  | .word text => some text
  | _ => none

/-- A text without its separators. -/
def solid (s : List Char) : List Char :=
  s.filter (!isSeparator ·)

/-- The texts of words one after the other, without their separators. -/
def solidWords (ws : List String) : List Char :=
  ws.flatMap fun w => solid w.toList

@[simp] theorem solid_nil : solid [] = [] := rfl

@[simp] theorem solid_append (s t : List Char) : solid (s ++ t) = solid s ++ solid t :=
  List.filter_append ..

@[simp] theorem solidWords_nil : solidWords [] = [] := rfl

@[simp] theorem solidWords_cons (w : String) (ws : List String) :
    solidWords (w :: ws) = solid w.toList ++ solidWords ws := rfl

/-- Nothing is left of a text if it has separators only. -/
theorem solid_eq_nil_iff {s : List Char} : solid s = [] ↔ Lexeme.IsGap s := by
  simp [solid, Lexeme.IsGap]

/-- Nothing is left of separators when quotes and separators are taken out. -/
theorem solid_unquote_of_isGap {s : List Char} (h : Lexeme.IsGap s) : solid (unquote s) = [] := by
  rw [unquote_of_notMem fun hq => absurd (h _ hq) (by decide)]
  exact solid_eq_nil_iff.2 h

theorem filterMap_word?_map (ws : List String) : (ws.map Token.word).filterMap word? = ws := by
  simp [List.filterMap_map, Function.comp_def, word?]

end Token

namespace Lexeme
open Token (solid solidWords unquote)

/-- Words have the characters of the part of the line in which they are written. -/
theorem Laid.solidWords_eq {s : List Char} {ls ms : List Lexeme} {ws : List String}
    (h : Laid s (ls ++ ms)) (hf : NoFault ls) (ht : tokens ls = ws.map .word) :
    solidWords ws = solid (unquote (flatten ls)) := by
  induction ls generalizing s ws with
  | nil =>
    obtain rfl : ws = [] := by simpa using ht.symm
    rfl
  | cons l ls ih =>
    obtain ⟨gap, raw, e | t⟩ := l
    · simp at hf
    · obtain ⟨rest, -, hg, hsp, -, hrest⟩ := h.token_inv
      cases ws with
      | nil => simp at ht
      | cons w ws =>
        rw [tokens_cons_ok, List.map_cons, List.cons.injEq] at ht
        obtain ⟨rfl, ht⟩ := ht
        have hwords := ih hrest ((noFault_cons_ok gap raw _ ls).1 hf) ht
        have hw : w.toList = unquote raw := by
          cases hsp
          exact String.toList_ofList
        rw [Token.solidWords_cons, hwords, hw, flatten_cons, Token.unquote_append,
          Token.unquote_append, Token.solid_append, Token.solid_append,
          Token.solid_unquote_of_isGap hg, List.nil_append]

/-- Words have the characters of a text of words only: what follows the last are separators. -/
theorem Laid.solidWords_eq_all {s : List Char} {ls : List Lexeme} {ws : List String}
    (h : Laid s ls) (hf : NoFault ls) (ht : tokens ls = ws.map .word) :
    solidWords ws = solid (unquote s) := by
  rw [← List.append_nil ls] at h
  obtain ⟨blanks, hs, hblanks⟩ := h.drop hf
  cases hblanks with
  | done hblanks =>
    rw [h.solidWords_eq hf ht, hs, Token.unquote_append, Token.solid_append,
      Token.solid_unquote_of_isGap hblanks, List.append_nil]

end Lexeme

namespace Plan
open Lexeme (Laid tokens flatten NoFault spansFrom IsGap)
open Token (solid solidWords unquote)

/-- The part of a line between its first word and its redirection. -/
def textPart (line : String) : List Char :=
  let tokens := placed (Token.lex line)
  match tokens.head?, tokens.find? (·.1.isRedirection) with
  | some (_, first), some (_, place) => Text.slice line.toList first.stop place.start
  | _, _ => []

/-- The part of a line behind its redirection. -/
def targetPart (line : String) : List Char :=
  match (placed (Token.lex line)).find? (·.1.isRedirection) with
  | some (_, place) => Text.slice line.toList place.stop (Text.byteLength line.toList)
  | none => []

/-- The words that are lexed behind the redirection of a line. -/
def wordsBehind (line : String) : List String :=
  (((placed (Token.lex line)).map (·.1)).dropWhile (!·.isRedirection)).tail.filterMap Token.word?

/-- A redirection has, in its text and in its target, the characters of its words, separators
apart. -/
def SameCharacters (line : String) (r : Redirection) : Prop :=
  solid r.text.toList = solidWords r.command.args ∧
    solid r.target.toList = solidWords (wordsBehind line)

instance (line : String) (r : Redirection) : Decidable (SameCharacters line r) :=
  inferInstanceAs (Decidable (_ ∧ _))

/-- The blanks that trimming takes off the two parts of a line with a redirection. -/
def takenOff (line : String) : List Char :=
  Text.leadingBlanks (textPart line) ++ Text.trailingBlanks (textPart line) ++
    (Text.leadingBlanks (targetPart line) ++ Text.trailingBlanks (targetPart line))

/-- The characters of a part of a line, in what is sliced from it and in what is trimmed off. -/
theorem solid_unquote_eq (part : List Char) :
    solid (unquote part) = solid (Text.leadingBlanks part) ++ solid (bareText part).toList ++
      solid (Text.trailingBlanks part) := by
  have hlead : unquote (Text.leadingBlanks part) = Text.leadingBlanks part :=
    Token.unquote_of_notMem (Text.quote_notMem_of_allBlank (Text.allBlank_leadingBlanks part))
  have htrail : unquote (Text.trailingBlanks part) = Text.trailingBlanks part :=
    Token.unquote_of_notMem (Text.quote_notMem_of_allBlank (Text.allBlank_trailingBlanks part))
  have hbare : (bareText part).toList = unquote (Text.trimChars part) := String.toList_ofList
  calc solid (unquote part)
      = solid (unquote (Text.leadingBlanks part ++ Text.trimChars part ++
          Text.trailingBlanks part)) := by rw [Text.leadingBlanks_append_trimChars]
    _ = _ := by
      rw [Token.unquote_append, Token.unquote_append, hlead, htrail, Token.solid_append,
        Token.solid_append, hbare]

/-- A slice has all characters of its part if only separators are trimmed off. -/
theorem solid_bareText_eq_iff (part : List Char) :
    solid (bareText part).toList = solid (unquote part) ↔
      IsGap (Text.leadingBlanks part ++ Text.trailingBlanks part) := by
  rw [solid_unquote_eq part, ← Token.solid_eq_nil_iff, Token.solid_append]
  constructor
  · intro h
    have hlen := congrArg List.length h
    simp only [List.length_append] at hlen
    rw [List.append_eq_nil_iff, ← List.length_eq_zero_iff, ← List.length_eq_zero_iff]
    omega
  · intro h
    obtain ⟨hlead, htrail⟩ := List.append_eq_nil_iff.1 h
    rw [hlead, htrail, List.nil_append, List.append_nil]

/-- The first redirection behind lexemes that are words. -/
theorem find?_placed {ls : List Lexeme} {ws : List String} {op : Token} (n : ℕ)
    (gap raw : List Char) (after : List Lexeme) (ht : tokens ls = ws.map .word)
    (hop : op.isRedirection = true) :
    (placed (spansFrom n (ls ++ ⟨gap, raw, .ok op⟩ :: after))).find? (·.1.isRedirection) =
      some (op, ⟨n + Text.byteLength (flatten ls ++ gap),
        n + Text.byteLength (flatten ls ++ gap) + Text.byteLength raw⟩) := by
  have hnone : (placed (spansFrom n ls)).find? (·.1.isRedirection) = none := by
    rw [List.find?_eq_none]
    intro p hp
    have hmem : p.1 ∈ ws.map Token.word := by
      rw [← ht, ← map_fst_placed n]
      exact List.mem_map_of_mem hp
    obtain ⟨w, -, hw⟩ := List.mem_map.1 hmem
    simp [← hw, Token.isRedirection]
  rw [placed_spansFrom_append, List.find?_append, hnone, Option.none_or, placed_spansFrom_ok,
    Text.byteLength_append, ← Nat.add_assoc n]
  exact List.find?_cons_of_pos hop

section
variable {line : String} {gap₀ raw₀ gap raw tail : List Char} {op : Token} {w : String}
  {ws vs : List String} {more after : List Lexeme}

/-- The parts of a line with a redirection, and the words behind it. -/
theorem parts_eq
    (h : Laid line.toList (⟨gap₀, raw₀, .ok (.word w)⟩ :: (more ++ ⟨gap, raw, .ok op⟩ :: after)))
    (hline : line.toList = gap₀ ++ raw₀ ++ (flatten more ++ gap) ++ raw ++ tail)
    (hop : op.isRedirection = true) (hmore : tokens more = ws.map .word)
    (hafter : tokens after = vs.map .word) :
    textPart line = flatten more ++ gap ∧ targetPart line = tail ∧ wordsBehind line = vs := by
  let first : Lexeme := ⟨gap₀, raw₀, .ok (.word w)⟩
  have hlex : Token.lex line = spansFrom 0 (first :: (more ++ ⟨gap, raw, .ok op⟩ :: after)) := by
    rw [Token.lex, h.ofChars_eq]
  have hwords : tokens (first :: more) = (w :: ws).map .word := by simp [first, hmore]
  have hfront : flatten (first :: more) ++ gap = gap₀ ++ raw₀ ++ (flatten more ++ gap) := by
    simp [first]
  have hfind := find?_placed 0 gap raw after hwords hop
  rw [List.cons_append, ← hlex, hfront] at hfind
  have hhead : (placed (Token.lex line)).head? =
      some (.word w, ⟨Text.byteLength gap₀, Text.byteLength (gap₀ ++ raw₀)⟩) := by
    rw [hlex, placed_spansFrom_ok]
    simp
  refine ⟨?_, ?_, ?_⟩
  · have hslice := Text.slice_append (gap₀ ++ raw₀) (flatten more ++ gap) (raw ++ tail)
    rw [textPart, hhead, hfind, hline]
    simpa [Nat.add_assoc] using hslice
  · have hslice := Text.slice_append (gap₀ ++ raw₀ ++ (flatten more ++ gap) ++ raw) tail []
    rw [targetPart, hfind, hline]
    simpa [Nat.add_assoc] using hslice
  · have hplain : ∀ t ∈ (w :: ws).map Token.word, (!t.isRedirection) = true := by
      intro t ht
      obtain ⟨v, -, rfl⟩ := List.mem_map.1 ht
      rfl
    have htokens : (placed (Token.lex line)).map (·.1) =
        (w :: ws).map .word ++ op :: vs.map .word := by
      rw [hlex, map_fst_placed, ← hwords]
      simp [first, hafter]
    rw [wordsBehind, htokens, List.dropWhile_append_of_pos hplain,
      List.dropWhile_cons_of_neg (by simp [hop]), List.tail_cons, Token.filterMap_word?_map]

end

/-- What the text and the target of a redirection are sliced from, and the words that are lexed
there. -/
theorem slices_of_parse {line : String} {r : Redirection} (h : parse line = .ok (.redirected r)) :
    r.text = bareText (textPart line) ∧ r.target = bareText (targetPart line) ∧
      solidWords r.command.args = solid (unquote (textPart line)) ∧
      solidWords (wordsBehind line) = solid (unquote (targetPart line)) := by
  obtain ⟨hf, hr⟩ := reads_of_parse (Lexeme.laid_ofChars _) h
  have hlaid := Lexeme.laid_ofChars line.toList
  generalize Lexeme.ofChars line.toList = ls at hlaid hf hr
  cases hr with
  | @redirected gap₀ raw₀ gap raw tail w ws vs op more after hop hmore hafter hline hne =>
    obtain ⟨htext, htarget, hbehind⟩ := parts_eq hlaid hline hop hmore hafter
    rw [Lexeme.noFault_cons_ok, Lexeme.noFault_append, Lexeme.noFault_cons_ok] at hf
    obtain ⟨rest, hrest, -, -, -, hlaid⟩ := hlaid.token_inv
    have hargs := hlaid.solidWords_eq hf.1 hmore
    obtain ⟨rest', rfl, hop'⟩ := hlaid.drop hf.1
    obtain ⟨tail', rfl, hgap, -, -, htail⟩ := hop'.token_inv
    obtain rfl : tail' = tail := by
      rw [hrest] at hline
      simpa using hline
    have hwords := htail.solidWords_eq_all hf.2 hafter
    refine ⟨by rw [htext], by rw [htarget], ?_, by rw [htarget, hbehind, hwords]⟩
    rw [htext, Token.unquote_append, Token.solid_append, Token.solid_unquote_of_isGap hgap,
      List.append_nil, hargs]

/-- The words of a redirection have the characters of its text and of its target in order, together
with the blanks that trimming takes off the ends of the two. Text and target have just the
characters of the words if, and only if, each of these blanks is a separator. -/
theorem characters_of_parse {line : String} {r : Redirection}
    (h : parse line = .ok (.redirected r)) :
    r.text = bareText (textPart line) ∧ r.target = bareText (targetPart line) ∧
      solidWords r.command.args = solid (Text.leadingBlanks (textPart line)) ++
        solid r.text.toList ++ solid (Text.trailingBlanks (textPart line)) ∧
      solidWords (wordsBehind line) = solid (Text.leadingBlanks (targetPart line)) ++
        solid r.target.toList ++ solid (Text.trailingBlanks (targetPart line)) ∧
      (SameCharacters line r ↔ IsGap (takenOff line)) := by
  obtain ⟨htext, htarget, hargs, hbehind⟩ := slices_of_parse h
  have hsame : SameCharacters line r ↔ IsGap (takenOff line) := by
    rw [SameCharacters, hargs, hbehind, htext, htarget, solid_bareText_eq_iff,
      solid_bareText_eq_iff, takenOff, IsGap, IsGap, IsGap, ← List.forall_mem_append]
  refine ⟨htext, htarget, ?_, ?_, hsame⟩
  · rw [hargs, htext]
    exact solid_unquote_eq (textPart line)
  · rw [hbehind, htarget]
    exact solid_unquote_eq (targetPart line)

/-- A quoted blank and a glued operator, where only separators are trimmed off. -/
theorem characters_of_glued_line :
    let line := "echo\t\"a b\"  c>> my \"fi\"le \r"
    let r : Redirection := ⟨⟨"echo", ["a b", "c"]⟩, "a b  c", .append, "my file"⟩
    parse line = .ok (.redirected r) ∧ wordsBehind line = ["my", "file"] ∧
      SameCharacters line r := by
  intro line r
  have hparse : parse line = .ok (.redirected r) := by decide +kernel
  have hbehind : wordsBehind line = ["my", "file"] := by decide +kernel
  have hgap : (takenOff line).all Token.isSeparator = true := by decide +kernel
  obtain ⟨-, -, -, -, hsame⟩ := characters_of_parse hparse
  exact ⟨hparse, hbehind, hsame.2 (List.all_eq_true.1 hgap)⟩

/-- A no-break space is a character of a word, but at the start of the text it is trimmed off. -/
theorem not_sameCharacters_no_break_space :
    let r : Redirection := ⟨⟨"echo", ["\u00a0x"]⟩, "x", .truncate, "f"⟩
    parse "echo \u00a0x > f" = .ok (.redirected r) ∧ ¬ SameCharacters "echo \u00a0x > f" r := by
  constructor
  · decide +kernel
  · decide +kernel

end Plan
end LineShell
