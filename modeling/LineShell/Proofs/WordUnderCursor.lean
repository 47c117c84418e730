import LineShell.Proofs.CompletedWord
import LineShell.Proofs.Tiling

/-!
# The word under the cursor and the last token

The word under the cursor is found from the cursor backwards, and the tokens of a line are cut from
its start. Where there are no quotes and no white space but what separates tokens, both come to the
same: the word is the last token of what stands in front of the cursor, and if it is empty no token
in front of the cursor is a word that ends there.
-/
namespace LineShell

namespace Token
open Text (byteLength)
variable {front word : List Char} {text : String} {span : Span}

/-- A word behind what ends no word is the last token, in its place. -/
theorem getLast?_lex_append_word (hq : '"' ∉ front) (hends : EndsNoWord front) (hne : word ≠ [])
    (hbare : ∀ c ∈ word, isBare c = true) :
    (lex (String.ofList (front ++ word))).getLast? = some (.ok (.word (String.ofList word)),
      ⟨byteLength front, byteLength front + byteLength word⟩) := by
  have hnone : '"' ∉ (String.ofList front).toList := by
    rwa [String.toList_ofList]
  obtain ⟨ts, ws, tail, -, hchain, htail, hfront⟩ := exists_writes_of_notMem hnone
  rw [String.toList_ofList] at hfront
  subst hfront
  have hwritten : WrittenAs (.word (String.ofList word)) (String.ofList word).toList :=
    writtenAs_toList (by simpa using hne) (by simpa using hbare)
  rw [String.toList_ofList] at hwritten
  -- the gap at the end of `front` is now the gap in front of the word
  let w : Written := ⟨tail, .word (String.ofList word), word, htail, hwritten⟩
  have hapart : (ws ++ [w]).IsChain Written.Apart :=
    isChain_append_word rfl hchain (fun h => hq (List.mem_append_left _ h)) hends
  have hlaid := laid_of_isChain hapart Lexeme.isGap_nil
  have hline : (ws ++ [w]).flatMap Written.chars ++ [] =
      ws.flatMap Written.chars ++ tail ++ word := by
    simp [w, Written.chars]
  have hflat : Lexeme.flatten (ws.map Written.lexeme) = ws.flatMap Written.chars := by
    rw [Lexeme.flatten, List.flatMap_map]
    rfl
  rw [hline] at hlaid
  rw [lex, String.toList_ofList, hlaid.ofChars_eq, List.map_append, Lexeme.spansFrom_append, hflat,
    Nat.zero_add, List.map_singleton, List.getLast?_append]
  simp [Lexeme.spansFrom, Written.lexeme, w, Nat.add_assoc]

/-- No word ends with what ends no word. -/
theorem stop_ne_of_endsNoWord (hq : '"' ∉ front) (hends : EndsNoWord front)
    (hmem : (.ok (.word text), span) ∈ lex (String.ofList front)) :
    span.stop ≠ byteLength front := by
  intro hstop
  have hlaid := Lexeme.laid_ofChars front
  obtain ⟨-, tail, -, hfront⟩ := hlaid.exists_flatten
  rw [lex, String.toList_ofList] at hmem
  obtain ⟨before, l, after, hls, hfound, -, hplace⟩ := Lexeme.mem_spansFrom_iff.1 hmem
  have hspells := hlaid.spells_of_mem (l := l) (by simp [hls]) hfound.symm
  have hsplit : front ++ [] = Lexeme.flatten before ++ l.gap ++ l.raw ++
      (Lexeme.flatten after ++ tail) := by
    rw [List.append_nil, hfront, hls]
    simp
  obtain ⟨heq, -⟩ := Text.eq_of_append_eq_append hsplit (by rw [← hstop, hplace, Nat.zero_add])
  rw [heq] at hq hends
  have hraw : '"' ∉ l.raw := fun h => hq (List.mem_append_right _ h)
  have hword := (writtenAs_iff_spells.2 hspells).eq_toList hraw
  exact not_endsNoWord_append hspells.ne_nil hword.2 hends

end Token

namespace Input
open Text (byteLength slice takeBytes IsBoundary)
open Token (isBare isSeparator EndsNoWord)
variable {line : List Char} {pos start : ℕ}

/-- Where the word under the cursor begins: nothing that ends a word stands between there and the
cursor, and in front of it the line begins or something stands that does. -/
structure StartsWord (line : List Char) (pos start : ℕ) : Prop where
  boundary : IsBoundary line start
  le : start ≤ pos
  inner : ∀ c ∈ slice line start pos, isBoundary c = false
  outer : start = 0 ∨ ∃ front c back, line = front ++ c :: back ∧
    byteLength (front ++ [c]) = start ∧ isBoundary c = true

theorem wordStart_append {front word back : List Char} (hword : ∀ c ∈ word, isBoundary c = false)
    (hends : ∀ c ∈ front.getLast?, isBoundary c = true) :
    wordStart (front ++ word ++ back) (byteLength front + byteLength word) = byteLength front := by
  have hbefore : takeBytes (byteLength front + byteLength word) (front ++ word ++ back) =
      front ++ word := by
    rw [← Text.byteLength_append, Text.takeBytes_byteLength_append]
  have hfront : Text.dropEndWhile (!isBoundary ·) (front ++ word) = front := by
    rw [Text.dropEndWhile_append_of_pos fun c hc => by simp [hword c hc],
      Text.dropEndWhile_eq_self fun c hc => by simp [hends c hc]]
  rw [wordStart, hbefore]
  exact congrArg byteLength hfront

theorem startsWord_of_append {front word back : List Char}
    (hword : ∀ c ∈ word, isBoundary c = false)
    (hends : ∀ c ∈ front.getLast?, isBoundary c = true) :
    StartsWord (front ++ word ++ back) (byteLength front + byteLength word) (byteLength front) where
  boundary := by
    rw [List.append_assoc]
    exact Text.isBoundary_byteLength_append front (word ++ back)
  le := Nat.le_add_right _ _
  inner := by rwa [Text.slice_append]
  outer := by
    obtain rfl | ⟨init, last, rfl⟩ := front.eq_nil_or_concat
    · exact .inl rfl
    · rw [List.concat_eq_append] at hends ⊢
      exact .inr ⟨init, last, word ++ back, by simp, rfl, hends last (by simp)⟩

/-- The line between the word and the cursor. -/
theorem StartsWord.exists_append (hpos : IsBoundary line pos) (h : StartsWord line pos start) :
    ∃ front word back, line = front ++ word ++ back ∧ start = byteLength front ∧
      pos = byteLength front + byteLength word ∧ (∀ c ∈ word, isBoundary c = false) ∧
      ∀ c ∈ front.getLast?, isBoundary c = true := by
  obtain ⟨front, word, back, rfl, rfl, rfl⟩ := h.boundary.exists_between hpos h.le
  refine ⟨front, word, back, rfl, rfl, rfl, ?_, ?_⟩
  · have hinner := h.inner
    rwa [Text.slice_append] at hinner
  · obtain hzero | ⟨init, c, rest, hline, hlen, hc⟩ := h.outer
    · have hnil : front = [] := by
        by_contra hne
        exact (Text.byteLength_pos hne).ne' hzero
      simp [hnil]
    · have hsplit : init ++ [c] ++ rest = front ++ (word ++ back) := by
        rw [← List.append_assoc, hline]
        simp
      obtain ⟨rfl, -⟩ := Text.eq_of_append_eq_append hsplit hlen
      simpa using hc

/-- The word under the cursor begins at one place. -/
theorem startsWord_iff (hpos : IsBoundary line pos) :
    StartsWord line pos start ↔ start = wordStart line pos := by
  constructor
  · intro h
    obtain ⟨front, word, back, rfl, rfl, rfl, hword, hends⟩ := h.exists_append hpos
    exact (wordStart_append hword hends).symm
  · rintro rfl
    obtain ⟨front, word, back, hline, hbefore, hstart, hword, hends⟩ := exists_wordStart line pos
    have hlen := Text.isBoundary_iff.1 hpos
    rw [hbefore, Text.byteLength_append] at hlen
    rw [hstart, ← hlen, hline]
    exact startsWord_of_append hword hends

theorem isBare_of_isBoundary_eq_false {c : Char} (h : isBoundary c = false) : isBare c = true := by
  simp only [isBoundary, Bool.or_eq_false_iff, beq_eq_false_iff_ne] at h
  obtain ⟨⟨⟨⟨⟨hblank, hpipe⟩, hread⟩, hwrite⟩, hbackground⟩, hquote⟩ := h
  have hseparator : isSeparator c = false := by
    by_contra hsep
    rw [Token.isBlank_of_isSeparator (Bool.not_eq_false _ ▸ hsep)] at hblank
    contradiction
  simp [isBare, Token.isOperator, hseparator, hpipe, hread, hwrite, hbackground, hquote]

/-- The word under the cursor begins at one place, and where there are no quotes and no white space
but what separates tokens, it is the last token in front of the cursor; if it is empty, no token
that ends at the cursor is a word. -/
theorem wordStart_is_lexed (hpos : IsBoundary line pos) :
    (∀ start, StartsWord line pos start ↔ start = wordStart line pos) ∧
      ('"' ∉ takeBytes pos line →
        (∀ c ∈ takeBytes pos line, Text.isBlank c = true → isSeparator c = true) →
        (wordStart line pos < pos →
          (Token.lex (String.ofList (takeBytes pos line))).getLast? =
            some (.ok (.word (String.ofList (slice line (wordStart line pos) pos))),
              ⟨wordStart line pos, pos⟩)) ∧
        (wordStart line pos = pos → ∀ text span,
          (.ok (.word text), span) ∈ Token.lex (String.ofList (takeBytes pos line)) →
            span.stop ≠ pos)) := by
  refine ⟨fun start => startsWord_iff hpos, fun hq hblank => ?_⟩
  obtain ⟨front, word, back, hline, hbefore, hstart, hword, hends⟩ := exists_wordStart line pos
  have hlen := Text.isBoundary_iff.1 hpos
  rw [hbefore, Text.byteLength_append] at hlen
  have hslice : slice line (wordStart line pos) pos = word := by
    rw [hstart, ← hlen, hline, Text.slice_append]
  rw [hbefore] at hq hblank
  have hfront : '"' ∉ front := fun h => hq (List.mem_append_left word h)
  have hnoWord : EndsNoWord front := (endsNoWord_iff_of_isBoundary hfront hends).2
    fun c hc => hblank c (List.mem_append_left word (List.mem_of_getLast? hc))
  rw [hslice, hbefore, hstart, ← hlen]
  constructor
  · intro hlt
    have hne : word ≠ [] := by
      rintro rfl
      simp at hlt
    exact Token.getLast?_lex_append_word hfront hnoWord hne
      fun c hc => isBare_of_isBoundary_eq_false (hword c hc)
  · intro heq text span hmem
    have hnil : word = [] := by
      by_contra hne
      have := Text.byteLength_pos hne
      omega
    rw [hnil, List.append_nil] at hmem
    rw [← heq]
    exact Token.stop_ne_of_endsNoWord hfront hnoWord hmem

/-- A word behind an operator and a character of two bytes, and a cursor behind an operator. -/
theorem wordStart_is_lexed_wide :
    let line := "é|é >x".toList
    (∀ start, StartsWord line 5 start ↔ start = 3) ∧
      (Token.lex "é|é").getLast? = some (.ok (.word "é"), ⟨3, 5⟩) ∧
      ∀ text span, (.ok (.word text), span) ∈ Token.lex "é|é >" → span.stop ≠ 7 := by
  intro line
  have hword : IsBoundary line 5 := by decide +kernel
  have hoperator : IsBoundary line 7 := by decide +kernel
  have hstart : wordStart line 5 = 3 := by decide +kernel
  have hslice : String.ofList (slice line 3 5) = "é" := by decide +kernel
  have hbefore : takeBytes 5 line = "é|é".toList := by decide +kernel
  have hbefore' : takeBytes 7 line = "é|é >".toList := by decide +kernel
  have hall : line.all (fun c => !Text.isBlank c || isSeparator c) = true := by decide +kernel
  have hblank (n : ℕ) : ∀ c ∈ takeBytes n line, Text.isBlank c = true → isSeparator c = true := by
    intro c hc hblank
    have hmem : c ∈ line := by
      rw [← Text.takeBytes_append_dropBytes n line]
      exact List.mem_append_left _ hc
    simpa [hblank] using List.all_eq_true.1 hall c hmem
  obtain ⟨hstarts, hlexed⟩ := wordStart_is_lexed hword
  have hlast := (hlexed (by decide +kernel) (hblank 5)).1 (by decide +kernel)
  obtain ⟨-, hlexed'⟩ := wordStart_is_lexed hoperator
  have hnone := (hlexed' (by decide +kernel) (hblank 7)).2 (by decide +kernel)
  rw [hstart] at hstarts hlast
  rw [hslice, hbefore, String.ofList_toList] at hlast
  rw [hbefore', String.ofList_toList] at hnone
  exact ⟨hstarts, hlast, hnone⟩

end Input
end LineShell
