import LineShell.Proofs.PlanPrint
import Mathlib.Data.List.Chain

/-!
# The ways of writing tokens

A word may be written in many ways, by bare characters and by spans between quotes in any mixture,
and blanks may stand around tokens as long as two tokens do not run together. `Writes` says of tokens
and a line that the line is such a way of writing them. A line is cut into exactly the tokens that it
writes, so a plan does not depend on the way in which its tokens are written, but for the text and
the target of a redirection.
-/
namespace LineShell

namespace Token

/-- A part of a word as it is written. -/
inductive Piece where
  | bare (c : Char)
  /-- A span between double quotes. -/
  | quoted (s : List Char)
  deriving Repr, DecidableEq

namespace Piece

/-- What a piece stands for. -/
def text : Piece → List Char
  | bare c => [c]
  | quoted s => s

/-- A piece as it is written. -/
def raw : Piece → List Char
  | bare c => [c]
  | quoted s => enclose s

/-- A piece that can be read back. -/
def Valid : Piece → Prop
  | bare c => isBare c = true
  | quoted s => '"' ∉ s

instance : (piece : Piece) → Decidable piece.Valid
  | bare c => inferInstanceAs (Decidable (isBare c = true))
  | quoted s => inferInstanceAs (Decidable ('"' ∉ s))

theorem Valid.isWordText {piece : Piece} (h : piece.Valid) :
    Token.isWordText false piece.raw = true := by
  cases piece with
  | bare c =>
    have hc : c ≠ '"' := by rintro rfl; exact absurd h (by decide)
    have hbare : isBare c = true := h
    simp [raw, Token.isWordText, hc, hbare]
  | quoted s => exact isWordText_enclose h

theorem Valid.unquote_raw {piece : Piece} (h : piece.Valid) : unquote piece.raw = piece.text := by
  cases piece with
  | bare c =>
    have hc : c ≠ '"' := by rintro rfl; exact absurd h (by decide)
    exact unquote_cons_of_ne hc []
  | quoted s => exact unquote_enclose h

theorem raw_ne_nil (piece : Piece) : piece.raw ≠ [] := by
  cases piece <;> simp [raw, enclose]

end Piece

/-- The ways of writing a token: an operator as itself, and a word by pieces that spell its text. -/
inductive WrittenAs : Token → List Char → Prop
  | pipe : WrittenAs .pipe ['|']
  | append : WrittenAs .append ['>', '>']
  | write : WrittenAs .write ['>']
  | read : WrittenAs .read ['<']
  | background : WrittenAs .background ['&']
  | word {pieces : List Piece} : pieces ≠ [] → (∀ piece ∈ pieces, piece.Valid) →
      WrittenAs (.word (String.ofList (pieces.flatMap Piece.text))) (pieces.flatMap Piece.raw)

/-- What follows a word is a word together with it if it is one by itself. -/
theorem isWordText_append {quoted : Bool} {raw : List Char} (h : isWordText quoted raw = true)
    (rest : List Char) : isWordText quoted (raw ++ rest) = isWordText false rest := by
  induction raw generalizing quoted with
  | nil =>
    obtain rfl : quoted = false := by simpa [isWordText] using h
    rfl
  | cons c cs ih =>
    cases quoted with
    | true =>
      rw [isWordText] at h
      rw [List.cons_append, isWordText, ih h]
    | false =>
      by_cases hc : c = '"'
      · rw [isWordText, if_pos hc] at h
        rw [List.cons_append, isWordText, if_pos hc, ih h]
      · rw [isWordText, if_neg hc, Bool.and_eq_true] at h
        rw [List.cons_append, isWordText, if_neg hc, h.1, ih h.2, Bool.true_and]

theorem isWordText_flatMap_raw {pieces : List Piece} (h : ∀ piece ∈ pieces, piece.Valid) :
    isWordText false (pieces.flatMap Piece.raw) = true := by
  induction pieces with
  | nil => rfl
  | cons piece pieces ih =>
    obtain ⟨hpiece, hpieces⟩ := List.forall_mem_cons.1 h
    rw [List.flatMap_cons, isWordText_append hpiece.isWordText, ih hpieces]

theorem unquote_flatMap_raw {pieces : List Piece} (h : ∀ piece ∈ pieces, piece.Valid) :
    unquote (pieces.flatMap Piece.raw) = pieces.flatMap Piece.text := by
  induction pieces with
  | nil => rfl
  | cons piece pieces ih =>
    obtain ⟨hpiece, hpieces⟩ := List.forall_mem_cons.1 h
    rw [List.flatMap_cons, List.flatMap_cons, unquote_append, hpiece.unquote_raw, ih hpieces]

/-- Inside quotes, a word goes on to the next quote. -/
theorem exists_close_of_isWordText {raw : List Char} (h : isWordText true raw = true) :
    ∃ s rest, raw = s ++ '"' :: rest ∧ '"' ∉ s ∧ isWordText false rest = true := by
  induction raw with
  | nil => simp [isWordText] at h
  | cons c cs ih =>
    rw [isWordText] at h
    by_cases hc : c = '"'
    · subst hc
      exact ⟨[], cs, rfl, by simp, h⟩
    · have hflag : (c != '"') = true := bne_iff_ne.2 hc
      rw [hflag] at h
      obtain ⟨s, rest, rfl, hs, hrest⟩ := ih h
      exact ⟨c :: s, rest, rfl, by simp [hs, Ne.symm hc], hrest⟩

/-- Every word is written by pieces. -/
theorem exists_pieces_of_isWordText {raw : List Char} (h : isWordText false raw = true) :
    ∃ pieces : List Piece, (∀ piece ∈ pieces, piece.Valid) ∧ raw = pieces.flatMap Piece.raw := by
  match raw with
  | [] => exact ⟨[], by simp, rfl⟩
  | c :: cs =>
    by_cases hc : c = '"'
    · subst hc
      rw [isWordText, if_pos rfl] at h
      obtain ⟨s, rest, rfl, hs, hrest⟩ := exists_close_of_isWordText h
      obtain ⟨pieces, hvalid, rfl⟩ := exists_pieces_of_isWordText hrest
      exact ⟨.quoted s :: pieces, List.forall_mem_cons.2 ⟨hs, hvalid⟩,
        by simp [Piece.raw, enclose]⟩
    · rw [isWordText, if_neg hc, Bool.and_eq_true] at h
      obtain ⟨pieces, hvalid, rfl⟩ := exists_pieces_of_isWordText h.2
      exact ⟨.bare c :: pieces, List.forall_mem_cons.2 ⟨h.1, hvalid⟩, rfl⟩
termination_by raw.length

/-- The ways of writing a token are its raw texts. -/
theorem writtenAs_iff_spells {t : Token} {raw : List Char} : WrittenAs t raw ↔ Spells t raw := by
  constructor
  · intro h
    cases h with
    | @word pieces hne hvalid =>
      obtain ⟨piece, pieces, rfl⟩ := List.exists_cons_of_ne_nil hne
      have hraw : (piece :: pieces).flatMap Piece.raw ≠ [] := by simp [piece.raw_ne_nil]
      have h := Spells.word hraw (isWordText_flatMap_raw hvalid)
      rwa [unquote_flatMap_raw hvalid] at h
    | pipe => exact .pipe
    | append => exact .append
    | write => exact .write
    | read => exact .read
    | background => exact .background
  · intro h
    cases h with
    | word hne hw =>
      obtain ⟨pieces, hvalid, rfl⟩ := exists_pieces_of_isWordText hw
      rw [unquote_flatMap_raw hvalid]
      exact .word (by rintro rfl; simp at hne) hvalid
    | pipe => exact .pipe
    | append => exact .append
    | write => exact .write
    | read => exact .read
    | background => exact .background

/-- Tokens that run together when nothing stands between them. -/
def runsInto : Token → Token → Bool
  | .word _, .word _ => true
  | .write, .write | .write, .append => true
  | _, _ => false

/-- A token is not extended by what begins with another one, unless they run together. -/
theorem stops_append_iff {t u : Token} {raw rest : List Char} (h : Spells u raw) :
    Stops t (raw ++ rest) ↔ runsInto t u = false := by
  obtain ⟨c, cs, rfl⟩ := List.exists_cons_of_ne_nil h.ne_nil
  cases h with
  | word _ hw =>
    have hc : c = '"' ∨ isBare c = true := by
      by_cases hc : c = '"'
      · exact .inl hc
      · rw [isWordText, if_neg hc, Bool.and_eq_true] at hw
        exact .inr hw.1
    have hne : c ≠ '>' := by
      rintro rfl
      exact absurd hc (by decide)
    cases t with
    | word => rcases hc with rfl | hc <;> simp [Stops, runsInto, *]
    | write => simpa [Stops, runsInto] using hne
    | _ => simp [Stops, runsInto]
  | _ => cases t <;> simp [Stops, runsInto, isBare, isOperator]

theorem stops_of_isGap {s : List Char} (h : Lexeme.IsGap s) (hne : s ≠ []) (t : Token)
    (rest : List Char) : Stops t (s ++ rest) := by
  cases t with
  | word => exact stopsWord_of_isSeparator hne h
  | write =>
    obtain ⟨c, cs, rfl⟩ := List.exists_cons_of_ne_nil hne
    have hc : isSeparator c = true := h c (by simp)
    have hgt : c ≠ '>' := by rintro rfl; exact absurd hc (by decide)
    simpa [Stops] using hgt
  | _ => trivial

theorem stops_nil (t : Token) : Stops t [] := by
  cases t <;> simp [Stops]

/-- A token as it is written in a line, with the blanks in front of it. -/
structure Written where
  gap : List Char
  token : Token
  raw : List Char
  isGap : Lexeme.IsGap gap
  writtenAs : token.WrittenAs raw

namespace Written

/-- What stands in the line. -/
def chars (w : Written) : List Char :=
  w.gap ++ w.raw

/-- Two tokens one after the other that do not run together. -/
def Apart (v w : Written) : Prop :=
  v.token.runsInto w.token = true → w.gap ≠ []

/-- The token as a lexeme of the line. -/
def lexeme (w : Written) : Lexeme :=
  ⟨w.gap, w.raw, .ok w.token⟩

end Written

/-- A line is a way of writing tokens: one after the other, with blanks around them. -/
def Writes (ts : List Token) (line : String) : Prop :=
  ∃ (ws : List Written) (tail : List Char), ws.map Written.token = ts ∧
    ws.IsChain Written.Apart ∧ Lexeme.IsGap tail ∧
    line.toList = ws.flatMap Written.chars ++ tail

/-- Tokens that are apart are the lexemes of what is written. -/
theorem laid_of_isChain {ws : List Written} {tail : List Char} (hchain : ws.IsChain Written.Apart)
    (ht : Lexeme.IsGap tail) :
    Lexeme.Laid (ws.flatMap Written.chars ++ tail) (ws.map Written.lexeme) := by
  induction ws with
  | nil => exact .done ht
  | cons w ws ih =>
    have hrest := ih hchain.tail
    have hstop : w.token.Stops (ws.flatMap Written.chars ++ tail) := by
      cases ws with
      | nil =>
        by_cases hne : tail = []
        · simpa [hne] using stops_nil w.token
        · simpa using stops_of_isGap ht hne w.token []
      | cons v vs =>
        have hapart := (List.isChain_cons_cons.1 hchain).1
        by_cases hgap : v.gap = []
        · have hruns : w.token.runsInto v.token = false := by
            simpa using fun hr => hapart hr hgap
          have h : w.token.Stops (v.raw ++ (vs.flatMap Written.chars ++ tail)) :=
            (stops_append_iff (writtenAs_iff_spells.1 v.writtenAs)).2 hruns
          simpa [Written.chars, hgap] using h
        · have h := stops_of_isGap v.isGap hgap w.token
            (v.raw ++ vs.flatMap Written.chars ++ tail)
          simpa [Written.chars] using h
    have h := Lexeme.Laid.token w.isGap (writtenAs_iff_spells.1 w.writtenAs) hstop hrest
    simpa [Written.chars, Written.lexeme] using h

/-- The lexemes of a line without a fault are tokens that are apart. -/
theorem exists_isChain_of_laid {s : List Char} {ls : List Lexeme} (h : Lexeme.Laid s ls)
    (hf : Lexeme.NoFault ls) : ∃ (ws : List Written) (tail : List Char),
      ws.map Written.lexeme = ls ∧ ws.IsChain Written.Apart ∧ Lexeme.IsGap tail ∧
        s = ws.flatMap Written.chars ++ tail := by
  induction h with
  | @done s hg => exact ⟨[], s, rfl, .nil, hg, rfl⟩
  | @token gap raw rest t ls hg hsp hst _ ih =>
    obtain ⟨ws, tail, rfl, hchain, ht, rfl⟩ := ih ((Lexeme.noFault_cons_ok gap raw t ls).1 hf)
    let w : Written := ⟨gap, t, raw, hg, writtenAs_iff_spells.2 hsp⟩
    refine ⟨w :: ws, tail, rfl, ?_, ht, by simp [w, Written.chars]⟩
    cases ws with
    | nil => exact .singleton w
    | cons v vs =>
      refine List.isChain_cons_cons.2 ⟨fun hruns hgap => ?_, hchain⟩
      have hst' : t.Stops (v.raw ++ (vs.flatMap Written.chars ++ tail)) := by
        simpa [Written.chars, hgap] using hst
      have hnot := (stops_append_iff (writtenAs_iff_spells.1 v.writtenAs)).1 hst'
      rw [show w.token = t from rfl, hnot] at hruns
      contradiction
  | fault => simp at hf

end Token

namespace Lexeme
open Token (Written)

@[simp] theorem map_fst_spansFrom (n : ℕ) (ls : List Lexeme) :
    (spansFrom n ls).map (·.1) = ls.map (·.found) := by
  induction ls generalizing n with
  | nil => rfl
  | cons l ls ih => simp [spansFrom, ih]

/-- Lexemes that are given tokens, one for one. -/
theorem map_found_eq_iff {ls : List Lexeme} {ts : List Token} :
    ls.map (·.found) = ts.map .ok ↔ NoFault ls ∧ tokens ls = ts := by
  induction ls generalizing ts with
  | nil => cases ts <;> simp
  | cons l ls ih =>
    obtain ⟨gap, raw, e | t⟩ := l
    · cases ts <;> simp
    · cases ts with
      | nil => simp
      | cons u us => simpa [and_left_comm] using fun _ => @ih us

@[simp] theorem tokens_map_lexeme (ws : List Written) :
    tokens (ws.map Written.lexeme) = ws.map Written.token := by
  induction ws with
  | nil => rfl
  | cons w ws ih => simp [Written.lexeme, ← ih]

@[simp] theorem noFault_map_lexeme (ws : List Written) : NoFault (ws.map Written.lexeme) := by
  induction ws with
  | nil => exact noFault_nil
  | cons w ws ih => simpa [Written.lexeme] using ih

end Lexeme

namespace Token

/-- Writing tokens and being made of their lexemes are the same. -/
theorem writes_iff {ts : List Token} {line : String} :
    Writes ts line ↔
      ∃ ls, Lexeme.Laid line.toList ls ∧ Lexeme.NoFault ls ∧ Lexeme.tokens ls = ts := by
  constructor
  · rintro ⟨ws, tail, rfl, hchain, ht, hline⟩
    exact ⟨_, hline ▸ laid_of_isChain hchain ht, Lexeme.noFault_map_lexeme ws,
      Lexeme.tokens_map_lexeme ws⟩
  · rintro ⟨ls, hlaid, hf, rfl⟩
    obtain ⟨ws, tail, rfl, hchain, ht, hline⟩ := exists_isChain_of_laid hlaid hf
    exact ⟨ws, tail, (Lexeme.tokens_map_lexeme ws).symm, hchain, ht, hline⟩

/-- A line is cut into tokens, without a fault, when it is a way of writing them. -/
theorem map_fst_lex_eq_iff {ts : List Token} {line : String} :
    (lex line).map (·.1) = ts.map .ok ↔ Writes ts line := by
  rw [lex, Lexeme.map_fst_spansFrom, Lexeme.map_found_eq_iff, writes_iff]
  constructor
  · intro h
    exact ⟨_, Lexeme.laid_ofChars line.toList, h⟩
  · rintro ⟨ls, hlaid, h⟩
    rwa [hlaid.ofChars_eq]

/-- The plainest way of writing a token: a word is one span between quotes. -/
theorem exists_writtenAs {t : Token} (h : ∀ w, t = .word w → '"' ∉ w.toList) :
    ∃ raw, WrittenAs t raw := by
  cases t with
  | word w =>
    have hvalid : ∀ piece ∈ [Piece.quoted w.toList], piece.Valid := by
      simpa [Piece.Valid] using h w rfl
    have hw := WrittenAs.word (by simp) hvalid
    exact ⟨_, by simpa [Piece.text] using hw⟩
  | pipe => exact ⟨_, .pipe⟩
  | append => exact ⟨_, .append⟩
  | write => exact ⟨_, .write⟩
  | read => exact ⟨_, .read⟩
  | background => exact ⟨_, .background⟩

/-- Tokens can be written when no word has a quote. -/
theorem exists_writes_iff {ts : List Token} :
    (∃ line, Writes ts line) ↔ ∀ w, .word w ∈ ts → '"' ∉ w.toList := by
  constructor
  · rintro ⟨line, h⟩ w hw
    obtain ⟨ls, hlaid, -, rfl⟩ := writes_iff.1 h
    exact hlaid.quote_notMem hw
  · intro h
    -- a space in front of every token keeps all of them apart
    have hwritten : ∃ ws : List Written, ws.map Written.token = ts ∧
        ∀ w ∈ ws, w.gap ≠ [] := by
      induction ts with
      | nil => exact ⟨[], rfl, by simp⟩
      | cons t ts ih =>
        obtain ⟨raw, hraw⟩ := exists_writtenAs (t := t) fun w hw => h w (by simp [hw])
        obtain ⟨ws, rfl, hgaps⟩ := ih fun w hw => h w (List.mem_cons_of_mem t hw)
        exact ⟨⟨[' '], t, raw, Lexeme.isGap_space, hraw⟩ :: ws, rfl,
          List.forall_mem_cons.2 ⟨by simp, hgaps⟩⟩
    obtain ⟨ws, hws, hgaps⟩ := hwritten
    have hchain : ws.IsChain Written.Apart := by
      refine List.Pairwise.isChain (List.pairwise_of_forall_mem_list ?_)
      intro v _ w hw _
      exact hgaps w hw
    exact ⟨String.ofList (ws.flatMap Written.chars), ws, [], hws, hchain, Lexeme.isGap_nil,
      by simp⟩

end Token

namespace Plan
open Token (Writes)

/-- The tokens that ask for a plan. For a redirection they are not enough: its text and its target
are taken from the line. -/
def AskedBy (ts : List Token) : Plan → Prop
  | .noOp => ts = []
  | .simple cmd => ts = cmd.words.map .word
  | .piped cmds => 2 ≤ cmds.length ∧ ts.splitOn .pipe = cmds.map fun cmd => cmd.words.map .word
  | .redirected _ => False
  | .backgrounded cmd => ts = cmd.words.map .word ++ [.background]

theorem reads_iff_askedBy {line : List Char} {ls : List Lexeme} {plan : Plan}
    (hr : ∀ r, plan ≠ .redirected r) : Reads line ls plan ↔ AskedBy (Lexeme.tokens ls) plan := by
  constructor
  · intro h
    cases h with
    | noOp ht => exact ht
    | simple ht => exact ht
    | piped hlen ht => exact ⟨hlen, ht⟩
    | redirected => exact absurd rfl (hr _)
    | backgrounded ht => exact ht
  · intro h
    cases plan with
    | noOp => exact .noOp h
    | simple cmd => exact .simple h
    | piped cmds => exact .piped h.1 h.2
    | redirected r => exact h.elim
    | backgrounded cmd => exact .backgrounded h

/-- Every line with a plan writes tokens. -/
theorem exists_writes_of_parse {line : String} {plan : Plan} (h : parse line = .ok plan) :
    ∃ ts, Writes ts line := by
  have hlaid := Lexeme.laid_ofChars line.toList
  exact ⟨_, Token.writes_iff.2 ⟨_, hlaid, (reads_of_parse hlaid h).1, rfl⟩⟩

/-- What a line asks for depends on the tokens that it writes, unless it is a redirection. -/
theorem parse_eq_ok_iff_askedBy {ts : List Token} {line : String} (h : Writes ts line)
    {plan : Plan} (hr : ∀ r, plan ≠ .redirected r) : parse line = .ok plan ↔ AskedBy ts plan := by
  obtain ⟨ls, hlaid, hf, rfl⟩ := Token.writes_iff.1 h
  rw [← reads_iff_askedBy hr]
  constructor
  · intro hp
    exact (reads_of_parse hlaid hp).2
  · exact parse_of_reads hlaid hf

end Plan

namespace Token

/-- A line is cut into given tokens, without a fault, when it is one of the ways of writing them;
there are such ways when no word has a quote. All of them ask for the same plan, unless it is a
redirection. -/
theorem lex_eq_iff_writes (ts : List Token) (line : String) :
    ((lex line).map (·.1) = ts.map .ok ↔ Writes ts line) ∧
      ((∃ written, Writes ts written) ↔ ∀ w, .word w ∈ ts → '"' ∉ w.toList) ∧
      ∀ other, Writes ts line → Writes ts other → ∀ plan : Plan, (∀ r, plan ≠ .redirected r) →
        (Plan.parse line = .ok plan ↔ Plan.parse other = .ok plan) := by
  refine ⟨map_fst_lex_eq_iff, exists_writes_iff, ?_⟩
  intro other h h' plan hr
  rw [Plan.parse_eq_ok_iff_askedBy h hr, Plan.parse_eq_ok_iff_askedBy h' hr]

/-- A pipeline written without a blank around the pipe, and with as many quotes and blanks as one
likes. -/
theorem lex_eq_iff_writes_two_styles :
    let ts : List Token := [.word "ls", .word "-l", .pipe, .word "wc"]
    Writes ts "ls -l|w\"c\"" ∧ Writes ts " \"l\"s  \"-l\"\"\" | wc\t" ∧
      Plan.parse " \"l\"s  \"-l\"\"\" | wc\t" =
        .ok (.piped [⟨"ls", ["-l"]⟩, ⟨"wc", []⟩]) := by
  intro ts
  obtain ⟨hlex, -, hplan⟩ := lex_eq_iff_writes ts "ls -l|w\"c\""
  have h : Writes ts "ls -l|w\"c\"" := hlex.1 (by decide +kernel)
  have h' : Writes ts " \"l\"s  \"-l\"\"\" | wc\t" :=
    (lex_eq_iff_writes ts " \"l\"s  \"-l\"\"\" | wc\t").1.1 (by decide +kernel)
  exact ⟨h, h', (hplan _ h h' _ (by simp)).1 (by decide +kernel)⟩

end Token
end LineShell
