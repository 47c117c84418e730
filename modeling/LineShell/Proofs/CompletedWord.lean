import LineShell.Proofs.Candidates
import LineShell.Proofs.Slices
import LineShell.Proofs.Writing

/-!
# A completed word in its line

A candidate is put into the line as it is, without quotes. Behind a text without quotes it becomes
one word of the line if it has bare characters only and nothing that it is glued to, and not
otherwise. White space ends the word under the cursor even if it separates no tokens, and then the
candidate is glued to what stands in front of it. If trimming the line leaves the candidate whole,
the command that is run gets it as its last word.
-/
namespace LineShell

namespace Token
variable {t : Token} {ts : List Token} {raw : List Char} {front cand : String}

/-! ## A word behind a text -/

theorem Piece.exists_bare {piece : Piece} (h : piece.Valid) (hq : '"' ∉ piece.raw) :
    ∃ c, piece = .bare c ∧ isBare c = true := by
  cases piece with
  | bare c => exact ⟨c, rfl, h⟩
  | quoted s => exact absurd (by simp [Piece.raw, enclose]) hq

/-- A word that is written without quotes is written by its bare characters. -/
theorem WrittenAs.eq_toList (h : WrittenAs (.word cand) raw) (hq : '"' ∉ raw) :
    raw = cand.toList ∧ ∀ c ∈ raw, isBare c = true := by
  cases h with
  | @word pieces hne hvalid =>
    have hbare : ∀ piece ∈ pieces, ∃ c, piece = .bare c ∧ isBare c = true := by
      intro piece hpiece
      exact Piece.exists_bare (hvalid piece hpiece) fun hmem =>
        hq (List.mem_flatMap.2 ⟨piece, hpiece, hmem⟩)
    constructor
    · rw [String.toList_ofList]
      refine List.flatMap_congr fun piece hpiece => ?_
      obtain ⟨c, rfl, -⟩ := hbare piece hpiece
      rfl
    · intro c hc
      obtain ⟨piece, hpiece, hmem⟩ := List.mem_flatMap.1 hc
      obtain ⟨d, rfl, hd⟩ := hbare piece hpiece
      obtain rfl := List.mem_singleton.1 hmem
      exact hd

theorem writtenAs_toList (hne : cand ≠ "") (h : ∀ c ∈ cand.toList, isBare c = true) :
    WrittenAs (.word cand) cand.toList := by
  have hpieces : cand.toList.map Piece.bare ≠ [] := by simpa using hne
  have hvalid : ∀ piece ∈ cand.toList.map Piece.bare, piece.Valid := by
    simpa [Piece.Valid] using h
  have hword := WrittenAs.word hpieces hvalid
  simpa [List.flatMap_map, Piece.text, Piece.raw] using hword

/-- A token that is written without quotes ends in a bare character if it is a word. -/
theorem WrittenAs.isBare_getLast_iff (h : WrittenAs t raw) (hq : '"' ∉ raw) {c : Char}
    (hc : c ∈ raw.getLast?) : isBare c = true ↔ ∃ w, t = .word w := by
  cases h with
  | word hne hvalid =>
    have hword := (WrittenAs.word hne hvalid).eq_toList hq
    exact iff_of_true (hword.2 c (List.mem_of_getLast? hc)) ⟨_, rfl⟩
  | _ =>
    obtain rfl : _ = c := Option.some.inj hc
    simp [isBare, isOperator]

/-- What is written ends with the last token. -/
theorem getLast?_flatMap_chars {ws : List Written} {v : Written} (hv : v ∈ ws.getLast?) :
    (ws.flatMap Written.chars).getLast? = v.raw.getLast? := by
  obtain ⟨init, rfl⟩ := List.getLast?_eq_some_iff.1 hv
  have hraw := (writtenAs_iff_spells.1 v.writtenAs).ne_nil
  rw [List.flatMap_append, List.flatMap_singleton, Written.chars, ← List.append_assoc,
    List.getLast?_append_of_ne_nil _ hraw]

/-- A text that a word behind it is not glued to. -/
def EndsNoWord (front : List Char) : Prop :=
  ∀ c ∈ front.getLast?, isBare c = false

theorem isBare_eq_false_of_isSeparator {c : Char} (h : isSeparator c = true) :
    isBare c = false := by
  simp [isBare, h]

theorem endsNoWord_append_gap {s gap : List Char} (hgap : Lexeme.IsGap gap) (hne : gap ≠ []) :
    EndsNoWord (s ++ gap) := by
  intro c hc
  rw [List.getLast?_append_of_ne_nil _ hne] at hc
  exact isBare_eq_false_of_isSeparator (hgap c (List.mem_of_getLast? hc))

theorem not_endsNoWord_append {s word : List Char} (hne : word ≠ [])
    (hbare : ∀ c ∈ word, isBare c = true) : ¬ EndsNoWord (s ++ word) := by
  intro h
  have hlast := h _
    ((List.getLast?_append_of_ne_nil s hne).trans (List.getLast?_eq_some_getLast hne))
  rw [hbare _ (List.getLast_mem hne)] at hlast
  contradiction

/-- A text without quotes that writes tokens ends no word if its last token is none, or if there is
a gap behind it. -/
theorem endsNoWord_iff {ws : List Written} {gap : List Char} (hgap : Lexeme.IsGap gap)
    (hq : '"' ∉ ws.flatMap Written.chars) : EndsNoWord (ws.flatMap Written.chars ++ gap) ↔
      ∀ v ∈ ws.getLast?, (∃ w, v.token = .word w) → gap ≠ [] := by
  by_cases hne : gap = []
  · subst hne
    rw [List.append_nil]
    cases hlast : ws.getLast? with
    | none => simp [List.getLast?_eq_none_iff.1 hlast, EndsNoWord]
    | some v =>
      have hmem := List.mem_of_getLast? hlast
      have hraw : '"' ∉ v.raw := fun h =>
        hq (List.mem_flatMap.2 ⟨v, hmem, List.mem_append_right _ h⟩)
      have hne := (writtenAs_iff_spells.1 v.writtenAs).ne_nil
      have hend := List.getLast?_eq_some_getLast hne
      have hiff := v.writtenAs.isBare_getLast_iff hraw hend
      have hnot : isBare (v.raw.getLast hne) = false ↔ ¬ ∃ w, v.token = .word w := by
        rw [← hiff, Bool.not_eq_true]
      rw [EndsNoWord, getLast?_flatMap_chars hlast, hend]
      simpa using hnot
  · exact iff_of_true (endsNoWord_append_gap hgap hne) fun _ _ _ => hne

/-- A word is apart from what ends no word. -/
theorem isChain_append_word {ws : List Written} {w : Written} {text : String}
    (hw : w.token = .word text) (hchain : ws.IsChain Written.Apart)
    (hq : '"' ∉ ws.flatMap Written.chars)
    (hends : EndsNoWord (ws.flatMap Written.chars ++ w.gap)) :
    (ws ++ [w]).IsChain Written.Apart := by
  refine List.isChain_append.2 ⟨hchain, .singleton w, fun v hv w' hw' hruns => ?_⟩
  obtain rfl := Option.some.inj hw'
  refine (endsNoWord_iff w.isGap hq).1 hends v hv ?_
  cases htoken : v.token with
  | word other => exact ⟨other, rfl⟩
  | _ =>
    rw [htoken, hw] at hruns
    exact absurd hruns (by simp [runsInto])

theorem writes_append_word_of (hq : '"' ∉ front.toList) (hfront : Writes ts front)
    (hne : cand ≠ "") (hbare : ∀ c ∈ cand.toList, isBare c = true)
    (hends : EndsNoWord front.toList) : Writes (ts ++ [.word cand]) (front ++ cand) := by
  obtain ⟨ws, tail, rfl, hchain, htail, hline⟩ := hfront
  rw [hline] at hq hends
  let w : Written := ⟨tail, .word cand, cand.toList, htail, writtenAs_toList hne hbare⟩
  have hapart : (ws ++ [w]).IsChain Written.Apart :=
    isChain_append_word rfl hchain (fun h => hq (List.mem_append_left _ h)) hends
  refine ⟨ws ++ [w], [], by simp [w], hapart, Lexeme.isGap_nil, ?_⟩
  simp [hline, w, Written.chars]

theorem of_writes_append_word (hq : '"' ∉ front.toList) (hne : cand ≠ "")
    (h : Writes (ts ++ [.word cand]) (front ++ cand)) :
    (∀ c ∈ cand.toList, isBare c = true) ∧ EndsNoWord front.toList := by
  have hcand : '"' ∉ cand.toList := (exists_writes_iff.1 ⟨_, h⟩) cand (by simp)
  obtain ⟨ws, tail, hws, hchain, htail, hline⟩ := h
  obtain ⟨init, last, rfl, -, hlast⟩ := List.map_eq_append_iff.1 hws
  obtain ⟨w, rfl, hw⟩ := List.map_eq_singleton_iff.1 hlast
  have hline' : front.toList ++ cand.toList =
      init.flatMap Written.chars ++ w.gap ++ w.raw ++ tail := by
    simpa [Written.chars] using hline
  have hall : '"' ∉ init.flatMap Written.chars ++ w.gap ++ w.raw ++ tail := by
    rw [← hline']
    simp [hq, hcand]
  simp only [List.mem_append, not_or] at hall
  obtain ⟨⟨⟨hinit, -⟩, hraw⟩, -⟩ := hall
  have hwritten := w.writtenAs
  rw [hw] at hwritten
  obtain ⟨hrawEq, hbare⟩ := hwritten.eq_toList hraw
  rw [hrawEq] at hbare hline'
  refine ⟨hbare, ?_⟩
  -- a gap at the end of the line would be at the end of the word
  have hnil : tail = [] := by
    by_contra hgap
    have hends := endsNoWord_append_gap (s := init.flatMap Written.chars ++ w.gap ++ cand.toList)
      htail hgap
    rw [← hline'] at hends
    exact not_endsNoWord_append (by simpa using hne) hbare hends
  rw [hnil, List.append_nil] at hline'
  rw [List.append_cancel_right hline']
  refine (endsNoWord_iff w.isGap hinit).2 fun v hv hword => ?_
  obtain ⟨text, htext⟩ := hword
  have hapart := (List.isChain_append.1 hchain).2.2 v hv w rfl
  exact hapart (by rw [htext, hw]; rfl)

/-- A text without quotes has no fault. -/
theorem exists_writes_of_notMem (hq : '"' ∉ front.toList) : ∃ ts, Writes ts front := by
  have hlaid := Lexeme.laid_ofChars front.toList
  exact ⟨_, writes_iff.2 ⟨_, hlaid, hlaid.noFault_iff.2 (quoteOpen_of_notMem hq false), rfl⟩⟩

/-- Behind a text without quotes, what has bare characters only and is not glued to that text
becomes one word, and nothing else does. -/
theorem lex_append_word_iff (hq : '"' ∉ front.toList) (hne : cand ≠ "") :
    (lex (front ++ cand)).map (·.1) = (lex front).map (·.1) ++ [.ok (.word cand)] ↔
      (∀ c ∈ cand.toList, isBare c = true) ∧ EndsNoWord front.toList := by
  obtain ⟨ts, hfront⟩ := exists_writes_of_notMem hq
  have htokens : (ts ++ [Token.word cand]).map Except.ok =
      ts.map .ok ++ [(.ok (.word cand) : Except LexError Token)] := by simp
  rw [map_fst_lex_eq_iff.2 hfront, ← htokens, map_fst_lex_eq_iff]
  exact ⟨of_writes_append_word hq hne, fun h => writes_append_word_of hq hfront hne h.1 h.2⟩

end Token

/-! ## The command that is run -/

namespace Plan
variable {ts : List Token} {w : String} {plan : Plan}

/-- The command that the last words of a line belong to. -/
def lastCommand? : Plan → Option SimpleCommand
  | .noOp => none
  | .simple cmd | .backgrounded cmd => some cmd
  | .piped cmds => cmds.getLast?
  | .redirected r => some r.command

/-- A plan has a command with a word at its end. -/
def EndsWith (plan : Plan) (w : String) : Prop :=
  ∃ cmd words, plan.lastCommand? = some cmd ∧ cmd.words = words ++ [w]

theorem exists_words_of_append {words : List String}
    (h : ts ++ [.word w] = words.map Token.word) : ∃ front, words = front ++ [w] := by
  obtain ⟨front, last, rfl, -, hlast⟩ := List.map_eq_append_iff.1 h.symm
  obtain ⟨text, rfl, htext⟩ := List.map_eq_singleton_iff.1 hlast
  obtain rfl := Token.word.inj htext
  exact ⟨front, rfl⟩

/-- A plan that is no redirection ends with the last word of its line. -/
theorem endsWith_of_askedBy (h : AskedBy (ts ++ [.word w]) plan) : plan.EndsWith w := by
  cases plan with
  | noOp => simp [AskedBy] at h
  | simple cmd =>
    obtain ⟨front, hwords⟩ := exists_words_of_append h
    exact ⟨cmd, front, rfl, hwords⟩
  | piped cmds =>
    obtain ⟨hlen, hsplit⟩ := h
    by_cases hpipe : .pipe ∈ ts
    · -- what follows the last pipe is the last command
      obtain ⟨back, front, hrev, hback⟩ := List.eq_append_cons_of_mem (List.mem_reverse.2 hpipe)
      have hts : ts = front.reverse ++ .pipe :: back.reverse := by
        rw [← List.reverse_reverse ts, hrev]
        simp
      have hlast : .pipe ∉ back.reverse ++ [Token.word w] := by simpa using hback
      rw [hts, List.append_assoc, List.cons_append, List.splitOn_append_cons_self,
        List.splitOn_eq_singleton hlast] at hsplit
      obtain ⟨others, last, rfl, -, hcmd⟩ := List.map_eq_append_iff.1 hsplit.symm
      obtain ⟨cmd, rfl, hwords⟩ := List.map_eq_singleton_iff.1 hcmd
      obtain ⟨words, heq⟩ := exists_words_of_append hwords.symm
      exact ⟨cmd, words, List.getLast?_concat, heq⟩
    · have hone : .pipe ∉ ts ++ [Token.word w] := by simpa using hpipe
      rw [List.splitOn_eq_singleton hone] at hsplit
      have hcount := congrArg List.length hsplit
      simp at hcount
      omega
  | redirected r => exact h.elim
  | backgrounded cmd =>
    have hlast := congrArg List.getLast? h
    simp at hlast

end Plan

namespace Text

/-- Trimming that leaves the end of a line whole takes blanks off its start only. -/
theorem exists_front_of_trimChars {front cand : List Char} (hne : cand ≠ [])
    (hwhole : cand <:+ trimChars (front ++ cand)) :
    ∃ lead rest, AllBlank lead ∧ front = lead ++ rest ∧
      trimChars (front ++ cand) = rest ++ cand := by
  obtain ⟨rest, hrest⟩ := hwhole
  have hall := leadingBlanks_append_trimChars (front ++ cand)
  rw [← hrest] at hall
  have hnil : trailingBlanks (front ++ cand) = [] := by
    by_contra hgap
    -- the last character of the line would be a blank, and that of the trimmed line is none
    have hlast := List.getLast?_eq_some_getLast hne
    have hkept : cand.getLast hne ∈ (trimChars (front ++ cand)).getLast? := by
      rw [← hrest, List.getLast?_append_of_ne_nil rest hne, hlast]
      rfl
    have hblank : cand.getLast hne ∈ (trailingBlanks (front ++ cand)).getLast? := by
      rw [← List.getLast?_append_of_ne_nil _ hgap, hall, List.getLast?_append_of_ne_nil front hne,
        hlast]
      rfl
    have hyes := allBlank_trailingBlanks _ _ (List.mem_of_getLast? hblank)
    rw [getLast?_dropEndWhile hkept] at hyes
    contradiction
  rw [hnil, List.append_nil, ← List.append_assoc] at hall
  exact ⟨_, rest, allBlank_leadingBlanks _, (List.append_cancel_right hall).symm, hrest.symm⟩

end Text
namespace Input
open Token (isBare isSeparator EndsNoWord)
variable {fs : FileSystem} {cwd : Path} {line : List Char} {pos : ℕ} {front cand : String}

/-! ## The word under the cursor -/

/-- The word under the cursor, what stands in front of it, and what follows the cursor. -/
theorem exists_wordStart (line : List Char) (pos : ℕ) : ∃ front word back,
    line = front ++ word ++ back ∧ Text.takeBytes pos line = front ++ word ∧
      wordStart line pos = Text.byteLength front ∧ (∀ c ∈ word, isBoundary c = false) ∧
      ∀ c ∈ front.getLast?, isBoundary c = true := by
  let before := Text.takeBytes pos line
  let front := Text.dropEndWhile (!isBoundary ·) before
  let word := (before.reverse.takeWhile (!isBoundary ·)).reverse
  have hbefore : front ++ word = before := Text.dropEndWhile_append_takeEnd (!isBoundary ·) before
  have hline : line = front ++ word ++ Text.dropBytes pos line := by
    rw [hbefore]
    exact (Text.takeBytes_append_dropBytes pos line).symm
  refine ⟨front, word, _, hline, hbefore.symm, rfl, ?_, ?_⟩
  · intro c hc
    simpa using List.mem_takeWhile_imp (List.mem_reverse.1 hc)
  · intro c hc
    simpa using Text.getLast?_dropEndWhile hc

/-- What stands in front of the word under the cursor: a part of what stands in front of the cursor,
and it is empty or ends where a word begins. -/
theorem takeBytes_wordStart (line : List Char) (pos : ℕ) :
    Text.takeBytes (wordStart line pos) line <+: Text.takeBytes pos line ∧
      ∀ c ∈ (Text.takeBytes (wordStart line pos) line).getLast?, isBoundary c = true := by
  obtain ⟨front, word, back, hline, hbefore, hstart, -, hends⟩ := exists_wordStart line pos
  have hfront : Text.takeBytes (wordStart line pos) line = front := by
    rw [hstart, hline, List.append_assoc, Text.takeBytes_byteLength_append]
  rw [hfront, hbefore]
  exact ⟨List.prefix_append front word, hends⟩

theorem isBlank_of_isOperator {c : Char} (h : Token.isOperator c = true) :
    Text.isBlank c = false := by
  simp only [Token.isOperator, Bool.or_eq_true, beq_iff_eq] at h
  obtain ((rfl | rfl) | rfl) | rfl := h <;> decide

/-- Where a word begins behind a text without quotes it is not glued to that, unless there is white
space which separates no tokens. -/
theorem endsNoWord_iff_of_isBoundary {front : List Char} (hq : '"' ∉ front)
    (hends : ∀ c ∈ front.getLast?, isBoundary c = true) : EndsNoWord front ↔
      ∀ c ∈ front.getLast?, Text.isBlank c = true → isSeparator c = true := by
  refine forall₂_congr fun c hc => ?_
  have hne : c ≠ '"' := by
    rintro rfl
    exact hq (List.mem_of_getLast? hc)
  have hboundary := hends c hc
  simp only [isBoundary, Bool.or_eq_true, beq_iff_eq] at hboundary
  obtain ((((hblank | rfl) | rfl) | rfl) | rfl) | rfl := hboundary
  · have hoperator : Token.isOperator c = false := by
      by_contra h
      rw [isBlank_of_isOperator (Bool.not_eq_false _ ▸ h)] at hblank
      contradiction
    simp [isBare, hoperator, hne, hblank]
  · decide
  · decide
  · decide
  · decide
  · contradiction

theorem ne_empty_of_mem_completePath (hfs : fs.Proper) {word : List Char}
    (h : cand ∈ completePath fs cwd word) : cand ≠ "" := by
  obtain ⟨dirPart, start, hparts⟩ := exists_lastSlash word
  cases hread : fs.readDir (dirOf cwd dirPart) with
  | error e =>
    rw [completePath_of_readDir_error hparts hread] at h
    contradiction
  | ok es =>
    obtain ⟨dir, hdir⟩ := FileSystem.readDir_eq_ok_iff.1 hread
    obtain ⟨name, node, isDir, he, -, rfl, -⟩ := (mem_completePath_iff hfs hparts hdir).1 h
    have hname := hfs.isFileName (FileSystem.node?_of_resolve hdir) name (List.mem_map_of_mem he)
    have hne : name ≠ "" := fun hempty => hname.2.1 (Utf8.encode_eq_nil.2 hempty)
    simp [completion, hne]

/-- A line that is run with a word at its end, behind some tokens. -/
structure RunsWith (line rest : String) (ts : List Token) (w : String) : Prop where
  line_eq : line = rest ++ w
  tokens : (Token.lex rest).map (·.1) = ts.map .ok
  /-- Behind words it is one more word of their command. -/
  simple : ∀ words, ts = words.map .word →
    ∃ cmd, Plan.parse line = .ok (.simple cmd) ∧ cmd.words = words ++ [w]
  /-- Whatever the line asks for, the last command gets the word, but for a redirection, whose
  target is all that stands behind the operator. -/
  ends : ∀ plan, Plan.parse line = .ok plan → (∀ r, plan ≠ .redirected r) → plan.EndsWith w

theorem runsWith_of_writes {rest : String} {ts : List Token} (h : Token.Writes ts rest)
    (hmore : Token.Writes (ts ++ [.word cand]) (rest ++ cand)) :
    RunsWith (rest ++ cand) rest ts cand where
  line_eq := rfl
  tokens := Token.map_fst_lex_eq_iff.2 h
  simple := by
    rintro words rfl
    obtain ⟨cmd, hcmd⟩ : ∃ cmd : SimpleCommand, cmd.words = words ++ [cand] := by
      cases words with
      | nil => exact ⟨⟨cand, []⟩, rfl⟩
      | cons program args => exact ⟨⟨program, args ++ [cand]⟩, rfl⟩
    refine ⟨cmd, (Plan.parse_eq_ok_iff_askedBy hmore (by simp)).2 ?_, hcmd⟩
    simp [Plan.AskedBy, hcmd]
  ends plan hplan hr :=
    Plan.endsWith_of_askedBy ((Plan.parse_eq_ok_iff_askedBy hmore hr).1 hplan)

/-- What becomes of a candidate behind a text. -/
structure StaysOneWord (front cand : String) : Prop where
  /-- It is one more word if it has bare characters only, and if no white space is in front of it
  that separates no tokens. -/
  lexes_iff : (Token.lex (front ++ cand)).map (·.1) =
      (Token.lex front).map (·.1) ++ [.ok (.word cand)] ↔
    (∀ c ∈ cand.toList, isBare c = true) ∧
      ∀ c ∈ front.toList.getLast?, Text.isBlank c = true → isSeparator c = true
  /-- Then it is also run as one, if trimming the line leaves it whole. -/
  runs : (∀ c ∈ cand.toList, isBare c = true) →
    (∀ c ∈ front.toList.getLast?, Text.isBlank c = true → isSeparator c = true) →
    cand.toList <:+ (Text.trim (front ++ cand)).toList →
    ∃ lead rest ts, front = lead ++ rest ∧ Text.AllBlank lead.toList ∧
      RunsWith (Text.trim (front ++ cand)) rest ts cand

theorem staysOneWord (hq : '"' ∉ front.toList)
    (hends : ∀ c ∈ front.toList.getLast?, isBoundary c = true) (hne : cand ≠ "") :
    StaysOneWord front cand := by
  have hiff := endsNoWord_iff_of_isBoundary hq hends
  constructor
  case lexes_iff => rw [Token.lex_append_word_iff hq hne, hiff]
  case runs =>
    intro hbare hblank hwhole
    rw [Text.toList_trim, String.toList_append] at hwhole
    obtain ⟨lead, rest, hlead, hfront, htrim⟩ :=
      Text.exists_front_of_trimChars (by simpa using hne) hwhole
    have hstop : EndsNoWord rest := by
      intro c hc
      refine hiff.2 hblank c ?_
      rw [hfront, List.getLast?_append, Option.mem_def.1 hc]
      rfl
    have hnone : '"' ∉ (String.ofList rest).toList := by
      rw [String.toList_ofList]
      exact fun h => hq (hfront ▸ List.mem_append_right lead h)
    obtain ⟨ts, hts⟩ := Token.exists_writes_of_notMem hnone
    have hmore := Token.writes_append_word_of hnone hts hne hbare (by rwa [String.toList_ofList])
    refine ⟨String.ofList lead, String.ofList rest, ts, ?_, ?_, ?_⟩
    · rw [← String.ofList_append, ← hfront, String.ofList_toList]
    · rwa [String.toList_ofList]
    · have hline : Text.trim (front ++ cand) = String.ofList rest ++ cand := by
        rw [Text.trim, String.toList_append, htrim, String.ofList_append, String.ofList_toList]
      rw [hline]
      exact runsWith_of_writes hts hmore

theorem complete_eq (fs : FileSystem) (cwd : Path) (line : List Char) (pos : ℕ) :
    complete fs cwd line pos = (wordStart line pos,
      completePath fs cwd (Text.slice line (wordStart line pos) pos)) := by
  unfold complete
  rfl

/-- A candidate for the word under the cursor, put in its place behind a text without quotes, is one
word of the line if the tokens of the line are made that way, and is run as one. -/
theorem completed_stays_one_word (hfs : fs.Proper) (hq : '"' ∉ Text.takeBytes pos line)
    (hcand : cand ∈ (complete fs cwd line pos).2) :
    StaysOneWord (String.ofList (Text.takeBytes (complete fs cwd line pos).1 line)) cand := by
  simp only [complete_eq] at hcand ⊢
  have hne := ne_empty_of_mem_completePath hfs hcand
  obtain ⟨hbegins, hends⟩ := takeBytes_wordStart line pos
  refine staysOneWord ?_ ?_ hne
  · rw [String.toList_ofList]
    exact fun h => hq (hbegins.subset h)
  · rw [String.toList_ofList]
    exact hends

/-- Files of which there is only one. -/
def oneFile (name : String) : FileSystem :=
  ⟨[(name, .file [] false)]⟩

theorem proper_oneFile {name : String} (hname : Path.IsFileName name) : (oneFile name).Proper := by
  have hput : (FileSystem.put ⟨[]⟩ ([] ++ [Utf8.encode name]) (.file [] false)).Proper :=
    FileSystem.proper_empty.put rfl (fun _ => hname) (Node.childless_of_isDir_eq_false rfl)
  exact hput

theorem completePath_oneFile {name : String} {word : List Char} (hname : Path.IsFileName name)
    (hslash : '/' ∉ word) (hbegins : word <+: name.toList) :
    completePath (oneFile name) "/" word = [name] := by
  have hdir : dirOf "/" [] = "/" := by decide
  have hresolve := Builtin.resolve_root (oneFile name)
  have hread : (oneFile name).readDir (dirOf "/" []) =
      .ok [(Utf8.encode name, .file [] false)] := by
    rw [hdir]
    exact FileSystem.readDir_eq_ok_iff.2 ⟨[], hresolve⟩
  have hlists := (proper_oneFile hname).lists hresolve List.mem_cons_self
  have hfile : (oneFile name).isDir (Path.join (dirOf "/" []) name) = false := by
    rw [hdir]
    by_contra hisDir
    obtain ⟨-, hleads⟩ := hlists.isDir_join_iff.1 (Bool.not_eq_false _ ▸ hisDir)
    simp [FileSystem.LeadsToOne, Node.isDir] at hleads
  have hparts : LastSlash word [] word := ⟨rfl, hslash, by simp⟩
  rw [completePath_of_single hparts hread hbegins hfile]
  simp [completion]

theorem complete_oneFile {name : String} {start : ℕ} (word : List Char)
    (hname : Path.IsFileName name) (hstart : wordStart line pos = start)
    (hword : Text.slice line start pos = word) (hslash : '/' ∉ word)
    (hbegins : word <+: name.toList) : complete (oneFile name) "/" line pos = (start, [name]) := by
  rw [complete_eq, hstart, hword, completePath_oneFile hname hslash hbegins]

/-- A name without blanks becomes the second word of the line. -/
theorem completed_stays_one_word_notes :
    complete (oneFile "notes.txt") "/" "cat no".toList 6 = (4, ["notes.txt"]) ∧
      StaysOneWord "cat " "notes.txt" := by
  have hname : Path.IsFileName "notes.txt" := by decide
  have hcomplete : complete (oneFile "notes.txt") "/" "cat no".toList 6 = (4, ["notes.txt"]) :=
    complete_oneFile "no".toList hname (by decide) (by decide) (by decide) (by decide)
  have hcand : "notes.txt" ∈ (complete (oneFile "notes.txt") "/" "cat no".toList 6).2 := by
    rw [hcomplete]
    exact List.mem_cons_self
  have hstays := completed_stays_one_word (proper_oneFile hname) (by decide) hcand
  have hfront : String.ofList (Text.takeBytes 4 "cat no".toList) = "cat " := rfl
  rw [hcomplete, hfront] at hstays
  exact ⟨hcomplete, hstays⟩

/-- A name with a blank becomes two words, a name behind white space that separates no tokens is
glued to what stands there, and white space at the end of a name is trimmed off the line. -/
theorem not_one_word :
    (complete (oneFile "my file.txt") "/" "cat my".toList 6 = (4, ["my file.txt"]) ∧
      (Token.lex "cat my file.txt").map (·.1) ≠
        (Token.lex "cat ").map (·.1) ++ [.ok (.word "my file.txt")]) ∧
    (complete (oneFile "bc") "/" "cat a\u00a0b".toList 8 = (7, ["bc"]) ∧
      (Token.lex "cat a\u00a0bc").map (·.1) ≠
        (Token.lex "cat a\u00a0").map (·.1) ++ [.ok (.word "bc")]) ∧
    complete (oneFile "x\u00a0") "/" "cat x".toList 5 = (4, ["x\u00a0"]) ∧
      Plan.parse (Text.trim "cat x\u00a0") = .ok (.simple ⟨"cat", ["x"]⟩) := by
  refine ⟨⟨?_, by decide +kernel⟩, ⟨?_, by decide +kernel⟩, ?_, by decide +kernel⟩
  · exact complete_oneFile "my".toList (by decide) (by decide) (by decide) (by decide) (by decide)
  · exact complete_oneFile "b".toList (by decide) (by decide) (by decide) (by decide) (by decide)
  · exact complete_oneFile "x".toList (by decide) (by decide) (by decide) (by decide) (by decide)

end Input
end LineShell
