import LineShell.Proofs.PlanShape

/-!
# Where tokens stand in a line

The spans of a line, that of a fault included, stand one after the other with nothing but separators
around them. So every other character belongs to exactly one span. A fault can only be the last
thing in a line, and what kind it is depends on where the last quote of the line stands.
-/
namespace LineShell

namespace Text

/-- Two prefixes of a text with as many bytes are the same. -/
theorem eq_of_append_eq_append {s s' t t' : List Char} (h : s ++ t = s' ++ t')
    (hlen : byteLength s = byteLength s') : s = s' ∧ t = t' := by
  have ht : t = t' := by
    rw [← dropBytes_byteLength_append s t, ← dropBytes_byteLength_append s' t', h, hlen]
  subst ht
  exact ⟨List.append_cancel_right h, rfl⟩

theorem byteLength_pos {s : List Char} (h : s ≠ []) : 0 < byteLength s := by
  obtain ⟨c, cs, rfl⟩ := List.exists_cons_of_ne_nil h
  have := c.utf8Size_pos
  simp only [byteLength_cons]
  omega

theorem isBoundary_byteLength_append (s t : List Char) : IsBoundary (s ++ t) (byteLength s) :=
  ⟨s, List.prefix_append s t, rfl⟩

theorem isBoundary_byteLength (s : List Char) : IsBoundary s (byteLength s) :=
  ⟨s, List.prefix_rfl, rfl⟩

theorem isBoundary_iff {s : List Char} {n : ℕ} :
    IsBoundary s n ↔ byteLength (takeBytes n s) = n := by
  constructor
  · rintro ⟨t, ⟨u, rfl⟩, rfl⟩
    rw [takeBytes_byteLength_append]
  · intro h
    exact ⟨takeBytes n s, ⟨dropBytes n s, takeBytes_append_dropBytes n s⟩, h⟩

instance {s : List Char} {n : ℕ} : Decidable (IsBoundary s n) :=
  decidable_of_iff _ isBoundary_iff.symm

theorem IsBoundary.le_byteLength {s : List Char} {n : ℕ} (h : IsBoundary s n) :
    n ≤ byteLength s := by
  obtain ⟨t, ⟨u, rfl⟩, rfl⟩ := h
  simp

/-- A line between two of its offsets. -/
theorem IsBoundary.exists_between {s : List Char} {start stop : ℕ} (hstart : IsBoundary s start)
    (hstop : IsBoundary s stop) (hle : start ≤ stop) : ∃ front part back,
      s = front ++ part ++ back ∧ start = byteLength front ∧
        stop = byteLength front + byteLength part := by
  obtain ⟨front, hfront, rfl⟩ := hstart
  obtain ⟨upTo, hupTo, rfl⟩ := hstop
  obtain ⟨part, rfl⟩ | ⟨more, rfl⟩ := List.prefix_or_prefix_of_prefix hfront hupTo
  · obtain ⟨back, rfl⟩ := hupTo
    exact ⟨front, part, back, rfl, rfl, byteLength_append front part⟩
  · have hnil : more = [] := by
      by_contra hne
      have hpos := byteLength_pos hne
      rw [byteLength_append] at hle
      omega
    obtain ⟨back, rfl⟩ := hfront
    exact ⟨upTo ++ more, [], back, by simp, rfl, by simp [hnil]⟩

end Text

namespace Span
open Text (byteLength slice IsBoundary)

/-- The character after `front` lies in a span of the line that they begin. -/
def Holds (span : Span) (front : List Char) (c : Char) : Prop :=
  span.start ≤ byteLength front ∧ byteLength front + c.utf8Size ≤ span.stop

/-- The gaps before, between and after spans, from byte `n` up to byte `stop`. -/
def gaps (stop : ℕ) : ℕ → List Span → List Span
  | n, [] => [⟨n, stop⟩]
  | n, span :: spans => ⟨n, span.start⟩ :: gaps stop span.stop spans

/-- Spans that take up a line but for separators. -/
structure Tile (line : List Char) (spans : List Span) : Prop where
  nonempty : ∀ span ∈ spans, span.start < span.stop
  boundary : ∀ span ∈ spans, IsBoundary line span.start ∧ IsBoundary line span.stop
  ordered : spans.Pairwise fun a b => a.stop ≤ b.start
  blank : ∀ gap ∈ gaps (byteLength line) 0 spans, Lexeme.IsGap (slice line gap.start gap.stop)
  covers : ∀ front c back, line = front ++ c :: back → Token.isSeparator c = false →
    ∃! span, span ∈ spans ∧ span.Holds front c

/-- Of two spans in order, only one holds a character. -/
theorem eq_of_holds {spans : List Span} (h : spans.Pairwise fun a b => a.stop ≤ b.start)
    {a b : Span} (ha : a ∈ spans) (hb : b ∈ spans) {front : List Char} {c : Char}
    (hac : a.Holds front c) (hbc : b.Holds front c) : a = b := by
  have hc := c.utf8Size_pos
  obtain ⟨i, hi, rfl⟩ := List.getElem_of_mem ha
  obtain ⟨j, hj, rfl⟩ := List.getElem_of_mem hb
  have hlt := List.pairwise_iff_getElem.1 h
  simp only [Holds] at hac hbc
  rcases Nat.lt_trichotomy i j with hij | rfl | hij
  · have := hlt i j hi hj hij
    omega
  · rfl
  · have := hlt j i hj hi hij
    omega

end Span

namespace Lexeme
open Text (byteLength slice IsBoundary)

/-- Lexemes that are separated by gaps only, with something of a line in each. -/
def Filled (ls : List Lexeme) : Prop :=
  ∀ l ∈ ls, IsGap l.gap ∧ l.raw ≠ []

/-- A line is its lexemes one after the other, and a gap. -/
theorem Laid.exists_flatten {s : List Char} {ls : List Lexeme} (h : Laid s ls) :
    Filled ls ∧ ∃ tail, IsGap tail ∧ s = flatten ls ++ tail := by
  induction h with
  | @done s hg => exact ⟨by simp [Filled], s, hg, by simp⟩
  | token hg hsp _ _ ih =>
    obtain ⟨hfilled, tail, htail, rfl⟩ := ih
    refine ⟨List.forall_mem_cons.2 ⟨⟨hg, hsp.ne_nil⟩, hfilled⟩, tail, htail, ?_⟩
    simp
  | @fault gap raw hg hnone _ =>
    have hne : raw ≠ [] := by rintro rfl; simp [Token.splitWord] at hnone
    exact ⟨by simp [Filled, hg, hne], [], isGap_nil, by simp⟩

theorem spansFrom_append (n : ℕ) (ls ms : List Lexeme) :
    spansFrom n (ls ++ ms) = spansFrom n ls ++ spansFrom (n + byteLength (flatten ls)) ms := by
  induction ls generalizing n with
  | nil => simp [spansFrom]
  | cons l ls ih => simp [spansFrom, ih, Nat.add_assoc]

/-- A span begins after what is written in front of its lexeme. -/
theorem mem_spansFrom_iff {n : ℕ} {ls : List Lexeme} {p : Except LexError Token × Span} :
    p ∈ spansFrom n ls ↔ ∃ before l after, ls = before ++ l :: after ∧ p.1 = l.found ∧
      p.2.start = n + byteLength (flatten before ++ l.gap) ∧
      p.2.stop = n + byteLength (flatten before ++ l.gap ++ l.raw) := by
  constructor
  · induction ls generalizing n with
    | nil => simp [spansFrom]
    | cons l ls ih =>
      intro h
      obtain rfl | h := List.mem_cons.1 h
      · exact ⟨[], l, ls, rfl, rfl, by simp, by simp [Nat.add_assoc]⟩
      · obtain ⟨before, m, after, rfl, hfound, hstart, hstop⟩ := ih h
        refine ⟨l :: before, m, after, rfl, hfound, ?_, ?_⟩
        · simp [hstart, Nat.add_assoc]
        · simp [hstop, Nat.add_assoc]
  · rintro ⟨before, l, after, rfl, hfound, hstart, hstop⟩
    obtain ⟨found, start, stop⟩ := p
    simp only at hfound hstart hstop
    subst hfound hstart hstop
    simp [spansFrom_append, spansFrom, Nat.add_assoc]

/-- The text of a lexeme is the part of the line at its place. -/
theorem slice_raw (before : List Lexeme) (l : Lexeme) (after : List Lexeme) (tail : List Char) :
    slice (flatten (before ++ l :: after) ++ tail) (byteLength (flatten before ++ l.gap))
      (byteLength (flatten before ++ l.gap ++ l.raw)) = l.raw := by
  have h := Text.slice_append (flatten before ++ l.gap) l.raw (flatten after ++ tail)
  rw [← Text.byteLength_append] at h
  simpa using h

theorem pairwise_spansFrom {n : ℕ} {ls : List Lexeme} :
    ((spansFrom n ls).map (·.2)).Pairwise fun a b => a.stop ≤ b.start := by
  induction ls generalizing n with
  | nil => exact .nil
  | cons l ls ih =>
    refine .cons ?_ ih
    intro span hspan
    obtain ⟨p, hp, rfl⟩ := List.mem_map.1 hspan
    obtain ⟨before, m, after, -, -, hstart, -⟩ := mem_spansFrom_iff.1 hp
    rw [hstart]
    exact Nat.le_add_right _ _

/-- The gaps around the spans of a line are the gaps of its lexemes and the one at its end. -/
theorem isGap_slice_of_mem_gaps (lead : List Char) {tail : List Char} {ls : List Lexeme}
    (hf : Filled ls) (ht : IsGap tail) {gap : Span}
    (hgap : gap ∈ Span.gaps (byteLength (lead ++ flatten ls ++ tail)) (byteLength lead)
      ((spansFrom (byteLength lead) ls).map (·.2))) :
    IsGap (slice (lead ++ flatten ls ++ tail) gap.start gap.stop) := by
  -- a lexeme that is done with goes over into `lead`, so that the line stays the same
  induction ls generalizing lead with
  | nil =>
    obtain rfl := List.mem_singleton.1 hgap
    have h := Text.slice_append lead tail []
    simp only [List.append_nil] at h
    simpa [h] using ht
  | cons l ls ih =>
    obtain ⟨⟨hl, -⟩, hls⟩ := List.forall_mem_cons.1 hf
    obtain rfl | hgap := List.mem_cons.1 hgap
    · have h := Text.slice_append lead l.gap (l.raw ++ flatten ls ++ tail)
      have hline : lead ++ flatten (l :: ls) ++ tail =
          lead ++ l.gap ++ (l.raw ++ flatten ls ++ tail) := by simp
      rw [hline, h]
      exact hl
    · have hline : lead ++ flatten (l :: ls) ++ tail =
          (lead ++ l.gap ++ l.raw) ++ flatten ls ++ tail := by simp
      rw [hline] at hgap ⊢
      refine ih (lead ++ l.gap ++ l.raw) hls ?_
      simpa [Nat.add_assoc] using hgap

/-- A character of two texts together is one of the first or one of the second. -/
theorem append_eq_append_cons {α : Type} {s t front back : List α} {c : α}
    (h : s ++ t = front ++ c :: back) :
    (∃ after, s = front ++ c :: after) ∨ ∃ before, front = s ++ before ∧ t = before ++ c :: back := by
  obtain ⟨before, hfront, ht⟩ | ⟨after, hs, hback⟩ := List.append_eq_append_iff.1 h
  · exact .inr ⟨before, hfront, ht⟩
  · cases after with
    | nil => exact .inr ⟨[], by simpa using hs.symm, by simpa using hback.symm⟩
    | cons d after =>
      obtain rfl : c = d := by simpa using congrArg List.head? hback
      exact .inl ⟨after, hs⟩

/-- A character that is no separator stands in the raw text of a lexeme. -/
theorem exists_holds {n : ℕ} {tail front back : List Char} {c : Char} {ls : List Lexeme}
    (hf : Filled ls) (ht : IsGap tail) (hc : Token.isSeparator c = false)
    (h : flatten ls ++ tail = front ++ c :: back) :
    ∃ span ∈ (spansFrom n ls).map (·.2), span.start ≤ n + byteLength front ∧
      n + byteLength front + c.utf8Size ≤ span.stop := by
  have notGap {s t : List Char} (hs : IsGap (s ++ c :: t)) : False := by
    have hsep := hs c (by simp)
    rw [hc] at hsep
    contradiction
  induction ls generalizing n front with
  | nil =>
    rw [flatten_nil, List.nil_append] at h
    exact (notGap (h ▸ ht)).elim
  | cons l ls ih =>
    obtain ⟨⟨hl, -⟩, hls⟩ := List.forall_mem_cons.1 hf
    rw [flatten_cons, List.append_assoc, List.append_assoc] at h
    obtain ⟨after, hgap⟩ | ⟨inside, rfl, hraw⟩ := append_eq_append_cons h
    · exact (notGap (hgap ▸ hl)).elim
    · obtain ⟨after, hin⟩ | ⟨beyond, rfl, hbeyond⟩ := append_eq_append_cons hraw
      · refine ⟨_, List.mem_cons_self, ?_, ?_⟩
        · simp only [Text.byteLength_append]
          omega
        · simp only [hin, Text.byteLength_append, Text.byteLength_cons]
          omega
      · obtain ⟨span, hspan, hstart, hstop⟩ :=
          ih (n := n + byteLength l.gap + byteLength l.raw) hls hbeyond
        simp only [Text.byteLength_append]
        exact ⟨span, List.mem_cons_of_mem _ hspan, by omega, by omega⟩

/-- The spans of a line tile it. -/
theorem Laid.tile {s : List Char} {ls : List Lexeme} (h : Laid s ls) :
    Span.Tile s ((spansFrom 0 ls).map (·.2)) := by
  obtain ⟨hf, tail, ht, rfl⟩ := h.exists_flatten
  have hplace {span : Span} (hspan : span ∈ (spansFrom 0 ls).map (·.2)) :
      ∃ before l after, ls = before ++ l :: after ∧
        span.start = byteLength (flatten before ++ l.gap) ∧
        span.stop = byteLength (flatten before ++ l.gap ++ l.raw) := by
    obtain ⟨p, hp, rfl⟩ := List.mem_map.1 hspan
    obtain ⟨before, l, after, hls, -, hstart, hstop⟩ := mem_spansFrom_iff.1 hp
    exact ⟨before, l, after, hls, by simpa using hstart, by simpa using hstop⟩
  constructor
  case nonempty =>
    intro span hspan
    obtain ⟨before, l, after, rfl, hstart, hstop⟩ := hplace hspan
    have hraw := Text.byteLength_pos (hf l (by simp)).2
    rw [hstart, hstop, Text.byteLength_append _ l.raw]
    omega
  case boundary =>
    intro span hspan
    obtain ⟨before, l, after, rfl, hstart, hstop⟩ := hplace hspan
    have hopen := Text.isBoundary_byteLength_append (flatten before ++ l.gap)
      (l.raw ++ flatten after ++ tail)
    have hclose := Text.isBoundary_byteLength_append (flatten before ++ l.gap ++ l.raw)
      (flatten after ++ tail)
    rw [hstart, hstop]
    exact ⟨by simpa using hopen, by simpa using hclose⟩
  case ordered => exact pairwise_spansFrom
  case blank =>
    intro gap hgap
    exact isGap_slice_of_mem_gaps [] hf ht hgap
  case covers =>
    intro front c back hline hc
    obtain ⟨span, hspan, hholds⟩ := exists_holds (n := 0) hf ht hc hline
    rw [Nat.zero_add] at hholds
    exact ⟨span, ⟨hspan, hholds⟩,
      fun other hother => Span.eq_of_holds pairwise_spansFrom hother.1 hspan hother.2 hholds⟩

/-- A fault of a line is the last of its lexemes and takes all that is left of the line. -/
theorem Laid.exists_fault {s : List Char} {ls : List Lexeme} (h : Laid s ls) (hf : ¬ NoFault ls) :
    ∃ before gap raw, ls = before ++ [⟨gap, raw, .error (Token.faultOf raw)⟩] ∧
      NoFault before ∧ s = flatten before ++ gap ++ raw := by
  induction h with
  | done => simp at hf
  | @token gap raw rest t ls _ _ _ _ ih =>
    obtain ⟨before, gap', raw', rfl, hbefore, rfl⟩ :=
      ih fun hls => hf ((noFault_cons_ok gap raw t ls).2 hls)
    exact ⟨⟨gap, raw, .ok t⟩ :: before, gap', raw', rfl, by simpa using hbefore, by simp⟩
  | @fault gap raw => exact ⟨[], gap, raw, rfl, noFault_nil, by simp⟩

end Lexeme

namespace Token
open Text (byteLength slice)

/-- The last quote of a line is at byte `n`. -/
def LastQuoteAt (line : List Char) (n : ℕ) : Prop :=
  ∃ before after, line = before ++ '"' :: after ∧ '"' ∉ after ∧ byteLength before = n

/-- A fault is an unterminated string when it begins with the last quote of its line. -/
theorem faultOf_eq_unterminatedString_iff {front raw : List Char} :
    faultOf raw = .unterminatedString ↔ LastQuoteAt (front ++ raw) (byteLength front) := by
  have hhead : faultOf raw = .unterminatedString ↔ ∃ after, raw = '"' :: after ∧ '"' ∉ after := by
    cases raw with
    | nil => simp [faultOf]
    | cons c cs => simp [faultOf]
  rw [hhead]
  constructor
  · rintro ⟨after, rfl, hafter⟩
    exact ⟨front, after, rfl, hafter, rfl⟩
  · rintro ⟨before, after, hline, hafter, hlen⟩
    obtain ⟨rfl, rfl⟩ := Text.eq_of_append_eq_append hline hlen.symm
    exact ⟨after, rfl, hafter⟩

end Token

namespace Plan
open Text (byteLength slice)
open Lexeme (Laid NoFault spansFrom)

/-- A result that is not refused for faults. -/
def NotLexical {α : Type} (r : Except ParseError α) : Prop :=
  ∀ fs, r ≠ .error (.lexer fs)

@[simp] theorem notLexical_ok {α : Type} (a : α) : NotLexical (.ok a) := by
  simp [NotLexical]

@[simp] theorem notLexical_error {α : Type} {e : ParseError} :
    NotLexical (.error e : Except ParseError α) ↔ ∀ fs, e ≠ .lexer fs := by
  simp [NotLexical]

theorem NotLexical.bind {α β : Type} {r : Except ParseError α} {f : α → Except ParseError β}
    (hr : NotLexical r) (hf : ∀ a, NotLexical (f a)) : NotLexical (r >>= f) := by
  cases r with
  | ok a => exact hf a
  | error e => exact notLexical_error.2 (notLexical_error.1 hr)

theorem NotLexical.map {α β : Type} {r : Except ParseError α} (hr : NotLexical r) (f : α → β) :
    NotLexical (r.map f) := by
  cases r with
  | ok a => exact notLexical_ok (f a)
  | error e => exact notLexical_error.2 (notLexical_error.1 hr)

theorem notLexical_words (ps : List Placed) : NotLexical (words ps) := by
  induction ps with
  | nil => exact notLexical_ok []
  | cons p ps ih =>
    obtain ⟨t, span⟩ := p
    cases t with
    | word text => exact ih.map _
    | _ => simp [words]

theorem notLexical_command {missing : ParseError} (hm : ∀ fs, missing ≠ .lexer fs)
    (ps : List Placed) : NotLexical (command missing ps) := by
  refine (notLexical_words ps).bind fun ws => ?_
  cases ws with
  | nil => exact notLexical_error.2 hm
  | cons w ws => exact notLexical_ok _

theorem notLexical_ofPipeline (ps : List Placed) : NotLexical (ofPipeline ps) := by
  refine NotLexical.map ?_ _
  induction stages ps with
  | nil => exact notLexical_ok []
  | cons st sts ih =>
    rw [List.mapM_cons]
    exact (notLexical_command (by simp) st).bind fun cmd => ih.bind fun cmds => notLexical_ok _

theorem notLexical_ofRedirection (line : List Char) (ps : List Placed) :
    NotLexical (ofRedirection line ps) := by
  rw [ofRedirection]
  split
  · split
    · refine (notLexical_command (by simp) _).bind fun cmd => ?_
      dsimp only
      split_ifs <;> simp
    · simp
  · simp

/-- The tokens of a line are never refused for faults. -/
theorem notLexical_ofTokens (line : List Char) (ps : List Placed) :
    NotLexical (ofTokens line ps) := by
  have hcommand (ps : List Placed) : NotLexical (command .missingCommand ps) :=
    notLexical_command (by simp) ps
  rw [ofTokens_eq line rfl]
  split_ifs
  · exact notLexical_ok _
  · simp
  · simp
  · exact notLexical_ofPipeline ps
  · simp
  · simp
  · exact notLexical_ofRedirection line ps
  · simp
  · exact (hcommand ps.dropLast).map _
  · exact (hcommand ps).map _

/-- A line is refused for its faults when one of its quotes is never closed. -/
theorem parse_eq_lexer_iff {line : String} :
    (∃ fs, parse line = .error (.lexer fs)) ↔ line.toList.count '"' % 2 = 1 := by
  have h := Lexeme.laid_ofChars line.toList
  have hodd : ¬ NoFault (Lexeme.ofChars line.toList) ↔ line.toList.count '"' % 2 = 1 := by
    rw [h.noFault_iff, Token.quoteOpen_eq_count]
    simp
  rw [← hodd]
  constructor
  · rintro ⟨fs, hfs⟩ hf
    rw [parse_of_noFault h hf] at hfs
    exact notLexical_ofTokens _ _ fs hfs
  · exact parse_of_not_noFault h

end Plan

namespace Lexeme

theorem Laid.spells_of_mem {s : List Char} {ls : List Lexeme} (h : Laid s ls) {l : Lexeme}
    (hl : l ∈ ls) {t : Token} (ht : l.found = .ok t) : t.Spells l.raw := by
  induction h with
  | done => simp at hl
  | token _ hsp _ _ ih =>
    obtain rfl | hl := List.mem_cons.1 hl
    · cases ht
      exact hsp
    · exact ih hl
  | fault =>
    obtain rfl := List.mem_singleton.1 hl
    cases ht

theorem isOk_of_mem_spansFrom {n : ℕ} {ls : List Lexeme} (hf : NoFault ls)
    {p : Except LexError Token × Span} (hp : p ∈ spansFrom n ls) : p.1.isOk = true := by
  obtain ⟨before, l, after, rfl, hfound, -⟩ := mem_spansFrom_iff.1 hp
  rw [hfound]
  exact hf l (by simp)

end Lexeme

namespace Token
open Text (byteLength slice)

/-- The text of a word is what stands in its span but for the quotes. -/
theorem text_of_mem_lex {line text : String} {span : Span}
    (hmem : (.ok (.word text), span) ∈ lex line) :
    text = String.ofList (unquote (slice line.toList span.start span.stop)) := by
  have h := Lexeme.laid_ofChars line.toList
  obtain ⟨before, l, after, hls, hfound, hstart, hstop⟩ := Lexeme.mem_spansFrom_iff.1 hmem
  obtain ⟨-, tail, -, hline⟩ := h.exists_flatten
  have hsp := h.spells_of_mem (l := l) (by simp [hls]) hfound.symm
  have hslice : slice line.toList span.start span.stop = l.raw := by
    have hraw := Lexeme.slice_raw before l after tail
    rw [← hls, ← hline] at hraw
    rwa [hstart, hstop, Nat.zero_add, Nat.zero_add]
  rw [hslice]
  cases hsp with
  | word => rfl

/-- A line that is refused for a fault has one fault, at its end. -/
theorem exists_lex_of_parse {line : String} {fs : List LexError}
    (hfs : Plan.parse line = .error (.lexer fs)) : ∃ front fault span,
      fs = [fault] ∧ lex line = front ++ [(.error fault, span)] ∧
        (∀ p ∈ front, p.1.isOk = true) ∧ span.stop = byteLength line.toList ∧
        (fault = .unterminatedString ↔ LastQuoteAt line.toList span.start) := by
  have h := Lexeme.laid_ofChars line.toList
  have hf : ¬ Lexeme.NoFault (Lexeme.ofChars line.toList) := by
    intro hf
    rw [Plan.parse_of_noFault h hf] at hfs
    exact Plan.notLexical_ofTokens _ _ fs hfs
  obtain ⟨before, gap, raw, hls, hbefore, hline⟩ := h.exists_fault hf
  let span : Span := ⟨byteLength (Lexeme.flatten before ++ gap), byteLength line.toList⟩
  have hlex : lex line = Lexeme.spansFrom 0 before ++ [(.error (faultOf raw), span)] := by
    rw [lex, hls, Lexeme.spansFrom_append]
    simp [Lexeme.spansFrom, span, hline, Nat.add_assoc]
  have hfaults : Plan.faults (lex line) = [faultOf raw] := by
    have hnone := (Plan.faults_spansFrom_eq_nil 0).2 hbefore
    rw [Plan.faults] at hnone
    rw [hlex, Plan.faults, List.filterMap_append, hnone]
    rfl
  have hparse : Plan.parse line = .error (.lexer [faultOf raw]) := by
    rw [Plan.parse, hfaults]
  obtain rfl : [faultOf raw] = fs := by simpa [hparse] using hfs
  refine ⟨_, _, span, rfl, hlex, fun p => Lexeme.isOk_of_mem_spansFrom hbefore, rfl, ?_⟩
  rw [hline]
  exact faultOf_eq_unterminatedString_iff

/-- The spans of a line tile it, and the text of a word is what stands in its span but for the
quotes. A line is refused for a fault just when the number of its quotes is odd; there is then one
fault, at the end of the line, and it is an unterminated string when it begins with the last
quote. -/
theorem lex_tile (line : String) :
    Span.Tile line.toList ((lex line).map (·.2)) ∧
      (∀ text span, (.ok (.word text), span) ∈ lex line →
        text = String.ofList (unquote (slice line.toList span.start span.stop))) ∧
      ((∃ fs, Plan.parse line = .error (.lexer fs)) ↔ line.toList.count '"' % 2 = 1) ∧
      ∀ fs, Plan.parse line = .error (.lexer fs) → ∃ front fault span,
        fs = [fault] ∧ lex line = front ++ [(.error fault, span)] ∧
          (∀ p ∈ front, p.1.isOk = true) ∧ span.stop = byteLength line.toList ∧
          (LastQuoteAt line.toList span.start → fault = .unterminatedString) ∧
          (¬ LastQuoteAt line.toList span.start → fault = .unknownToken) := by
  refine ⟨(Lexeme.laid_ofChars line.toList).tile, fun _ _ => text_of_mem_lex,
    Plan.parse_eq_lexer_iff, ?_⟩
  intro fs hfs
  obtain ⟨front, fault, span, rfl, hlex, hfront, hstop, hlast⟩ := exists_lex_of_parse hfs
  refine ⟨front, fault, span, rfl, hlex, hfront, hstop, hlast.2, ?_⟩
  intro hnot
  cases fault with
  | unterminatedString => exact absurd (hlast.1 rfl) hnot
  | unknownToken => rfl

/-- A line with characters of two bytes, an operator between quotes, and a quote that stays open. -/
theorem lex_tile_open_quote :
    let line := "é \"|\"b  \"c d"
    Span.Tile line.toList [⟨0, 2⟩, ⟨3, 7⟩, ⟨9, 13⟩] ∧
      "|b" = String.ofList (unquote (slice line.toList 3 7)) ∧
      Plan.parse line = .error (.lexer [.unterminatedString]) := by
  intro line
  have hlex : lex line = [(.ok (.word "é"), ⟨0, 2⟩), (.ok (.word "|b"), ⟨3, 7⟩),
      (.error .unterminatedString, ⟨9, 13⟩)] := by
    decide +kernel
  obtain ⟨htile, htext, hodd, hfault⟩ := lex_tile line
  rw [hlex] at htile htext hfault
  refine ⟨htile, htext "|b" ⟨3, 7⟩ (by simp), ?_⟩
  obtain ⟨fs, hfs⟩ := hodd.2 (by decide)
  obtain ⟨front, fault, span, rfl, hends, -⟩ := hfault fs hfs
  have hlast := congrArg List.getLast? hends
  simp only [List.getLast?_append, List.getLast?_singleton, List.getLast?_cons_cons,
    Option.some_or, Option.some.injEq, Prod.mk.injEq, Except.error.injEq] at hlast
  rw [hfs, hlast.1]

end Token
end LineShell
