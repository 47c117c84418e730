import LineShell.Command.Parse
import LineShell.Proofs.Layout

/-!
# The plan of a line from its lexemes

Reading a plan looks at the tokens of a line, and for a redirection also at the texts between the
byte offsets of two of them. Here both are stated on lexemes: which tokens they stand for, and which
part of the line is written between them. One lemma for each shape of a plan follows.
-/
namespace LineShell

namespace Lexeme

def tokens (ls : List Lexeme) : List Token :=
  ls.filterMap fun l => l.found.toOption

/-- Lexemes that are all tokens. -/
def NoFault (ls : List Lexeme) : Prop :=
  ∀ l ∈ ls, l.found.isOk = true

@[simp] theorem tokens_nil : tokens [] = [] := rfl

@[simp] theorem tokens_cons_ok (gap raw : List Char) (t : Token) (ls : List Lexeme) :
    tokens (⟨gap, raw, .ok t⟩ :: ls) = t :: tokens ls := rfl

@[simp] theorem tokens_append (ls ms : List Lexeme) : tokens (ls ++ ms) = tokens ls ++ tokens ms :=
  List.filterMap_append

@[simp] theorem noFault_nil : NoFault [] := by simp [NoFault]

@[simp] theorem noFault_cons_ok (gap raw : List Char) (t : Token) (ls : List Lexeme) :
    NoFault (⟨gap, raw, .ok t⟩ :: ls) ↔ NoFault ls := by
  simp [NoFault, Except.isOk, Except.toBool]

@[simp] theorem not_noFault_cons_error (gap raw : List Char) (e : LexError) (ls : List Lexeme) :
    ¬ NoFault (⟨gap, raw, .error e⟩ :: ls) := by
  simp [NoFault, Except.isOk, Except.toBool]

@[simp] theorem noFault_append (ls ms : List Lexeme) :
    NoFault (ls ++ ms) ↔ NoFault ls ∧ NoFault ms := by
  simp [NoFault, or_imp, forall_and]

theorem quoteOpen_of_isGap {s : List Char} (h : IsGap s) (quoted : Bool) :
    Token.quoteOpen quoted s = quoted := by
  apply Token.quoteOpen_of_notMem
  intro hm
  exact absurd (h _ hm) (by decide)

/-- A line is cut without a fault when no quote is open at its end. -/
theorem Laid.noFault_iff {s : List Char} {ls : List Lexeme} (h : Laid s ls) :
    NoFault ls ↔ Token.quoteOpen false s = false := by
  induction h with
  | done hg => simp [quoteOpen_of_isGap hg]
  | token hg hsp _ _ ih => simp [quoteOpen_of_isGap hg, hsp.quoteOpen, ih]
  | fault hg hnone _ =>
    have hopen := Token.quoteOpen_of_splitWord_eq_none hnone
    simp [quoteOpen_of_isGap hg, hopen]

/-- The first lexeme of a line, and what follows it. -/
theorem Laid.token_inv {s gap raw : List Char} {t : Token} {ls : List Lexeme}
    (h : Laid s (⟨gap, raw, .ok t⟩ :: ls)) :
    ∃ rest, s = gap ++ raw ++ rest ∧ IsGap gap ∧ t.Spells raw ∧ t.Stops rest ∧ Laid rest ls := by
  cases h with
  | token hg hsp hst hrest => exact ⟨_, rfl, hg, hsp, hst, hrest⟩

/-- What follows the first lexemes of a line is made of the others. -/
theorem Laid.drop {s : List Char} {ls ms : List Lexeme} (h : Laid s (ls ++ ms)) (hls : NoFault ls) :
    ∃ rest, s = flatten ls ++ rest ∧ Laid rest ms := by
  induction ls generalizing s with
  | nil => exact ⟨s, rfl, h⟩
  | cons l ls ih =>
    obtain ⟨gap, raw, e | t⟩ := l
    · simp at hls
    · obtain ⟨rest, rfl, -, -, -, hrest⟩ := h.token_inv
      obtain ⟨tail, rfl, htail⟩ := ih hrest ((noFault_cons_ok gap raw t ls).1 hls)
      exact ⟨tail, by simp, htail⟩

end Lexeme

namespace Plan
open Lexeme (Laid tokens flatten NoFault spansFrom)

@[simp] theorem placed_spansFrom_nil (n : ℕ) : placed (spansFrom n []) = [] := rfl

@[simp] theorem placed_spansFrom_ok (n : ℕ) (gap raw : List Char) (t : Token) (ls : List Lexeme) :
    placed (spansFrom n (⟨gap, raw, .ok t⟩ :: ls)) =
      (t, ⟨n + Text.byteLength gap, n + Text.byteLength gap + Text.byteLength raw⟩) ::
        placed (spansFrom (n + Text.byteLength gap + Text.byteLength raw) ls) := rfl

theorem placed_spansFrom_append (n : ℕ) (ls ms : List Lexeme) :
    placed (spansFrom n (ls ++ ms)) =
      placed (spansFrom n ls) ++ placed (spansFrom (n + Text.byteLength (flatten ls)) ms) := by
  induction ls generalizing n with
  | nil => simp
  | cons l ls ih =>
    obtain ⟨gap, raw, found⟩ := l
    have hn : n + Text.byteLength (flatten (⟨gap, raw, found⟩ :: ls)) =
        n + Text.byteLength gap + Text.byteLength raw + Text.byteLength (flatten ls) := by
      simp [Nat.add_assoc]
    cases found with
    | ok t => rw [hn, List.cons_append, placed_spansFrom_ok, ih]; rfl
    | error e =>
      have h := ih (n + Text.byteLength gap + Text.byteLength raw)
      rw [hn]
      simpa [placed, spansFrom] using h

@[simp] theorem map_fst_placed (n : ℕ) (ls : List Lexeme) :
    (placed (spansFrom n ls)).map (·.1) = tokens ls := by
  induction ls generalizing n with
  | nil => rfl
  | cons l ls ih =>
    obtain ⟨gap, raw, found⟩ := l
    cases found with
    | ok t => simp [ih]
    | error e => simpa [placed, spansFrom, tokens, Except.toOption] using ih _

theorem faults_spansFrom_eq_nil {ls : List Lexeme} (n : ℕ) :
    faults (spansFrom n ls) = [] ↔ NoFault ls := by
  induction ls generalizing n with
  | nil => simp [faults, spansFrom]
  | cons l ls ih =>
    obtain ⟨gap, raw, found⟩ := l
    have h := ih (n + Text.byteLength gap + Text.byteLength raw)
    cases found with
    | ok t => simpa [faults, spansFrom] using h
    | error e => simp [faults, spansFrom]

/-- The plan of a line that is cut without a fault. -/
theorem parse_of_noFault {line : String} {ls : List Lexeme} (h : Laid line.toList ls)
    (hf : NoFault ls) : parse line = ofTokens line.toList (placed (spansFrom 0 ls)) := by
  have hlex : Token.lex line = spansFrom 0 ls := by rw [Token.lex, h.ofChars_eq]
  rw [parse, hlex, (faults_spansFrom_eq_nil 0).2 hf]

/-- A line that is not cut without a fault has no plan. -/
theorem parse_of_not_noFault {line : String} {ls : List Lexeme} (h : Laid line.toList ls)
    (hf : ¬ NoFault ls) : ∃ fs, parse line = .error (.lexer fs) := by
  have hlex : Token.lex line = spansFrom 0 ls := by rw [Token.lex, h.ofChars_eq]
  have hne : faults (spansFrom 0 ls) ≠ [] := fun he => hf ((faults_spansFrom_eq_nil 0).1 he)
  rw [parse, hlex]
  cases hfs : faults (spansFrom 0 ls) with
  | nil => contradiction
  | cons e fs => exact ⟨_, rfl⟩

/-- Words are read off tokens that are all words, and off no others. -/
theorem words_eq_ok_iff {ps : List Placed} {ws : List String} :
    words ps = .ok ws ↔ ps.map (·.1) = ws.map .word := by
  induction ps generalizing ws with
  | nil => cases ws <;> simp [words]
  | cons p ps ih =>
    obtain ⟨t, span⟩ := p
    cases t with
    | word text =>
      cases ws with
      | nil => cases h : words ps <;> simp [words, h, Except.map]
      | cons w ws =>
        rw [words]
        cases h : words ps with
        | ok texts => simpa [Except.map, h, eq_comm] using fun _ => @ih ws
        | error e => simpa [Except.map, h] using fun _ => @ih ws
    | _ => cases ws <;> simp [words]

theorem command_of_words {missing : ParseError} {ps : List Placed} {ws : List String}
    (h : ps.map (·.1) = ws.map .word) :
    command missing ps = (SimpleCommand.ofWords? ws).elim (.error missing) .ok := by
  have hw := words_eq_ok_iff.2 h
  cases ws <;> simp [command, hw, SimpleCommand.ofWords?, bind, Except.bind]

theorem command_eq_ok_iff {missing : ParseError} {ps : List Placed} {cmd : SimpleCommand} :
    command missing ps = .ok cmd ↔ ps.map (·.1) = cmd.words.map .word := by
  constructor
  · intro h
    cases hw : words ps with
    | error e => simp [command, hw, bind, Except.bind] at h
    | ok ws =>
      have hmap := words_eq_ok_iff.1 hw
      rw [command_of_words hmap] at h
      cases ws with
      | nil => simp [SimpleCommand.ofWords?] at h
      | cons w ws =>
        simp only [SimpleCommand.ofWords?, Option.elim_some, Except.ok.injEq] at h
        subst h
        exact hmap
  · intro h
    rw [command_of_words h, SimpleCommand.ofWords?_words]
    rfl

theorem stages_ne_nil (ps : List Placed) : stages ps ≠ [] := by
  induction ps with
  | nil => simp [stages]
  | cons p ps ih =>
    obtain ⟨t, span⟩ := p
    cases hs : stages ps with
    | nil => contradiction
    | cons stage others => cases t <;> simp [stages, hs]

/-- The stages of a line are its tokens cut at the pipes. -/
theorem map_stages (ps : List Placed) :
    (stages ps).map (List.map (·.1)) = (ps.map (·.1)).splitOn .pipe := by
  induction ps with
  | nil => rfl
  | cons p ps ih =>
    obtain ⟨t, span⟩ := p
    rw [List.map_cons, List.splitOn_cons_eq_if_modifyHead, ← ih]
    cases hs : stages ps with
    | nil => exact absurd hs (stages_ne_nil ps)
    | cons stage others => cases t <;> simp [stages, hs]

/-- Reading the commands of the stages succeeds when every stage spells one. -/
theorem mapM_command_eq_ok_iff {missing : ParseError} {sts : List (List Placed)}
    {cmds : List SimpleCommand} :
    sts.mapM (command missing) = .ok cmds ↔
      sts.map (List.map (·.1)) = cmds.map fun cmd => cmd.words.map .word := by
  induction sts generalizing cmds with
  | nil => cases cmds <;> simp [pure, Except.pure]
  | cons st sts ih =>
    rw [List.mapM_cons]
    cases cmds with
    | nil =>
      cases h : command missing st <;> cases h' : sts.mapM (command missing) <;>
        simp [bind, Except.bind, pure, Except.pure]
    | cons cmd cmds =>
      rw [List.map_cons, List.map_cons, List.cons.injEq, ← @command_eq_ok_iff missing,
        ← ih]
      cases h : command missing st <;> cases h' : sts.mapM (command missing) <;>
        simp [bind, Except.bind, pure, Except.pure]

/-- The plan of a pipeline, stage by stage. -/
theorem ofPipeline_eq_ok_iff {ps : List Placed} {plan : Plan} :
    ofPipeline ps = .ok plan ↔ ∃ cmds, plan = .piped cmds ∧
      (ps.map (·.1)).splitOn .pipe = cmds.map fun cmd => cmd.words.map .word := by
  simp only [← map_stages, ← @mapM_command_eq_ok_iff .emptyPipeStage]
  rw [ofPipeline]
  cases h : (stages ps).mapM (command .emptyPipeStage) with
  | ok cmds => simp [Except.map, eq_comm]
  | error e => simp [Except.map]

/-- Tokens are cut where their first redirection stands. -/
theorem cut_at_redirection {before : List Placed} {op : Token} (place : Span) (after : List Placed)
    (hplain : ∀ p ∈ before, (!p.1.isRedirection) = true) (hop : op.isRedirection = true) :
    (before ++ (op, place) :: after).takeWhile (!·.1.isRedirection) = before ∧
      (before ++ (op, place) :: after).dropWhile (!·.1.isRedirection) = (op, place) :: after := by
  constructor
  · rw [List.takeWhile_append_of_pos hplain, List.takeWhile_cons_of_neg (by simp [hop]),
      List.append_nil]
  · rw [List.dropWhile_append_of_pos hplain, List.dropWhile_cons_of_neg (by simp [hop])]

/-- A line that begins with its only redirection lacks a command. -/
theorem ofRedirection_of_op {line gap raw : List Char} {op : Token} {after : List Lexeme}
    (hop : op.isRedirection = true) :
    ofRedirection line (placed (spansFrom 0 (⟨gap, raw, .ok op⟩ :: after))) =
      .error .missingCommand := by
  simp [ofRedirection, hop]

/-- The plan of a redirection: the text is what is written between the first word and the operator,
and the target is what is written after the operator. -/
theorem ofRedirection_of_words {gap raw gap₀ raw₀ tail : List Char} {op : Token} {w : String}
    {ws : List String} {more after : List Lexeme} (hop : op.isRedirection = true)
    (hmore : tokens more = ws.map .word) :
    ofRedirection (gap₀ ++ raw₀ ++ (flatten more ++ gap) ++ raw ++ tail)
        (placed (spansFrom 0
          (⟨gap₀, raw₀, .ok (.word w)⟩ :: (more ++ ⟨gap, raw, .ok op⟩ :: after)))) =
      if bareText tail = "" then .error .missingRedirectTarget
      else .ok (.redirected
        ⟨⟨w, ws⟩, bareText (flatten more ++ gap), redirectMode op, bareText tail⟩) := by
  let n := 0 + Text.byteLength gap₀ + Text.byteLength raw₀
  let m := n + Text.byteLength (flatten more) + Text.byteLength gap
  let before : List Placed :=
    (.word w, ⟨0 + Text.byteLength gap₀, n⟩) :: placed (spansFrom n more)
  let place : Span := ⟨m, m + Text.byteLength raw⟩
  let follow : List Placed := placed (spansFrom (m + Text.byteLength raw) after)
  have hsplit : placed (spansFrom 0
      (⟨gap₀, raw₀, .ok (.word w)⟩ :: (more ++ ⟨gap, raw, .ok op⟩ :: after))) =
        before ++ (op, place) :: follow := by
    rw [placed_spansFrom_ok, placed_spansFrom_append, placed_spansFrom_ok]
    rfl
  have hmap : before.map (·.1) = (w :: ws).map .word := by
    rw [List.map_cons, map_fst_placed, hmore]
    rfl
  have hplain : ∀ p ∈ before, (!p.1.isRedirection) = true := by
    intro p hp
    have hmem : p.1 ∈ (w :: ws).map Token.word := hmap ▸ List.mem_map_of_mem hp
    obtain ⟨v, -, hv⟩ := List.mem_map.1 hmem
    simp [← hv, Token.isRedirection]
  obtain ⟨htake, hdrop⟩ := cut_at_redirection place follow hplain hop
  have hcmd : command .missingCommand before = .ok ⟨w, ws⟩ := command_eq_ok_iff.2 hmap
  have htext : Text.slice (gap₀ ++ raw₀ ++ (flatten more ++ gap) ++ raw ++ tail) n m =
      flatten more ++ gap := by
    have h := Text.slice_append (gap₀ ++ raw₀) (flatten more ++ gap) (raw ++ tail)
    simpa [n, m, Nat.add_assoc] using h
  have htarget : Text.slice (gap₀ ++ raw₀ ++ (flatten more ++ gap) ++ raw ++ tail)
      (m + Text.byteLength raw)
      (Text.byteLength (gap₀ ++ raw₀ ++ (flatten more ++ gap) ++ raw ++ tail)) = tail := by
    have h := Text.slice_append (gap₀ ++ raw₀ ++ (flatten more ++ gap) ++ raw) tail []
    simpa [n, m, Nat.add_assoc] using h
  rw [hsplit, ofRedirection, htake, hdrop, hcmd]
  simp only [before, place, htext, htarget, bind, Except.bind]

@[simp] theorem pipe_notMem_words (ws : List String) : Token.pipe ∉ ws.map Token.word := by
  simp

@[simp] theorem countP_isRedirection_words (ws : List String) :
    (ws.map Token.word).countP Token.isRedirection = 0 := by
  simp [List.countP_eq_zero, Token.isRedirection]

@[simp] theorem count_background_words (ws : List String) :
    (ws.map Token.word).count .background = 0 := by
  simp [List.count_eq_zero]

theorem mem_intercalate_singleton {α : Type} {x t : α} {pieces : List (List α)}
    (h : t ∈ [x].intercalate pieces) : t = x ∨ ∃ piece ∈ pieces, t ∈ piece := by
  induction pieces with
  | nil => simp at h
  | cons piece pieces ih =>
    cases pieces with
    | nil => exact .inr ⟨piece, by simp, by simpa using h⟩
    | cons next pieces =>
      rw [List.intercalate_cons_cons, List.append_assoc, List.mem_append, List.mem_append,
        List.mem_singleton] at h
      obtain hpiece | rfl | hrest := h
      · exact .inr ⟨piece, by simp, hpiece⟩
      · exact .inl rfl
      · obtain rfl | ⟨other, hmem, ht⟩ := ih hrest
        · exact .inl rfl
        · exact .inr ⟨other, by simp [List.mem_cons.1 hmem], ht⟩

theorem mem_intercalate_of_mem {α : Type} {t : α} {piece : List α} (sep : List α)
    {pieces : List (List α)} (hp : piece ∈ pieces) (ht : t ∈ piece) :
    t ∈ sep.intercalate pieces := by
  induction pieces with
  | nil => simp at hp
  | cons first pieces ih =>
    cases pieces with
    | nil =>
      obtain rfl := List.mem_singleton.1 hp
      simpa using ht
    | cons next pieces =>
      rw [List.intercalate_cons_cons, List.append_assoc, List.mem_append, List.mem_append]
      obtain rfl | hp := List.mem_cons.1 hp
      · exact .inl ht
      · exact .inr (.inr (ih hp))

/-- What is cut at the pipes into words holds no other operators. -/
theorem no_operator_of_splitOn {ts : List Token} {wss : List (List String)}
    (h : ts.splitOn .pipe = wss.map (List.map .word)) :
    ts.countP Token.isRedirection = 0 ∧ ts.count .background = 0 := by
  have hcut : [Token.pipe].intercalate (ts.splitOn .pipe) = ts :=
    List.intercalate_splitOn Token.pipe
  have hplain : ∀ t ∈ ts, t = .pipe ∨ ∃ w, t = .word w := by
    intro t ht
    rw [← hcut, h] at ht
    obtain rfl | ⟨piece, hpiece, hmem⟩ := mem_intercalate_singleton ht
    · exact .inl rfl
    · obtain ⟨ws, -, rfl⟩ := List.mem_map.1 hpiece
      obtain ⟨w, -, rfl⟩ := List.mem_map.1 hmem
      exact .inr ⟨w, rfl⟩
  constructor
  · rw [List.countP_eq_zero]
    intro t ht
    obtain rfl | ⟨w, rfl⟩ := hplain t ht <;> simp [Token.isRedirection]
  · rw [List.count_eq_zero]
    intro ht
    obtain h | ⟨w, h⟩ := hplain _ ht <;> cases h

/-- There are at least two stages when there is a pipe. -/
theorem two_le_length_splitOn_iff {ts : List Token} :
    2 ≤ (ts.splitOn .pipe).length ↔ .pipe ∈ ts := by
  constructor
  · intro h
    by_contra hn
    rw [List.splitOn_eq_singleton hn] at h
    simp at h
  · intro h
    obtain ⟨us, vs, rfl⟩ := List.append_of_mem h
    have hu := List.length_pos_iff.2 (List.splitOn_ne_nil Token.pipe us)
    have hv := List.length_pos_iff.2 (List.splitOn_ne_nil Token.pipe vs)
    rw [List.splitOn_append_cons_self, List.length_append]
    omega

/-- Tokens that are no operators are words. -/
theorem exists_words {ts : List Token} (hp : .pipe ∉ ts) (hr : ts.countP Token.isRedirection = 0)
    (hb : ts.count .background = 0) : ∃ ws : List String, ts = ws.map .word := by
  induction ts with
  | nil => exact ⟨[], rfl⟩
  | cons t ts ih =>
    have hp' : .pipe ∉ ts := fun hm => hp (List.mem_cons_of_mem t hm)
    have hr' : ts.countP Token.isRedirection = 0 := by rw [List.countP_cons] at hr; omega
    have hb' : ts.count .background = 0 := by rw [List.count_cons] at hb; omega
    obtain ⟨ws, rfl⟩ := ih hp' hr' hb'
    cases t with
    | word w => exact ⟨w :: ws, rfl⟩
    | pipe => simp at hp
    | background => simp at hb
    | _ => simp [List.countP_cons, Token.isRedirection] at hr

/-- Tokens with one operator that is no pipe are words around it. -/
theorem exists_words_operator {ts : List Token} (hp : .pipe ∉ ts)
    (h : ts.countP Token.isRedirection + ts.count .background = 1) :
    ∃ (us vs : List String) (op : Token), (op.isRedirection = true ∨ op = .background) ∧
      ts = us.map .word ++ op :: vs.map .word := by
  induction ts with
  | nil => simp at h
  | cons t ts ih =>
    have hp' : .pipe ∉ ts := fun hm => hp (List.mem_cons_of_mem t hm)
    rw [List.countP_cons, List.count_cons] at h
    by_cases ht : t.isRedirection = true ∨ t = .background
    · have hplain : ts.countP Token.isRedirection = 0 ∧ ts.count .background = 0 := by
        obtain ht | rfl := ht
        · rw [if_pos ht] at h
          omega
        · rw [if_pos (beq_self_eq_true _)] at h
          omega
      obtain ⟨vs, rfl⟩ := exists_words hp' hplain.1 hplain.2
      exact ⟨[], vs, t, ht, rfl⟩
    · cases t with
      | word w =>
        obtain ⟨us, vs, op, hop, rfl⟩ := ih hp' (by simpa [Token.isRedirection] using h)
        exact ⟨w :: us, vs, op, hop, rfl⟩
      | pipe => simp at hp
      | _ => simp [Token.isRedirection] at ht

/-- Lexemes without a fault are cut where their tokens are. -/
theorem exists_lexeme_of_tokens_eq {ls : List Lexeme} (hf : NoFault ls) {us vs : List Token}
    {t : Token} (h : tokens ls = us ++ t :: vs) :
    ∃ before gap raw after, ls = before ++ ⟨gap, raw, .ok t⟩ :: after ∧
      tokens before = us ∧ tokens after = vs := by
  induction ls generalizing us with
  | nil => simp at h
  | cons l ls ih =>
    obtain ⟨gap, raw, e | u⟩ := l
    · simp at hf
    · have htl := (Lexeme.noFault_cons_ok gap raw u ls).1 hf
      cases us with
      | nil =>
        simp only [Lexeme.tokens_cons_ok, List.nil_append, List.cons.injEq] at h
        obtain ⟨rfl, h⟩ := h
        exact ⟨[], gap, raw, ls, rfl, rfl, h⟩
      | cons u' us =>
        simp only [Lexeme.tokens_cons_ok, List.cons_append, List.cons.injEq] at h
        obtain ⟨rfl, h⟩ := h
        obtain ⟨before, gap', raw', after, rfl, hb, ha⟩ := ih htl h
        exact ⟨⟨gap, raw, .ok u⟩ :: before, gap', raw', after, rfl, by simp [hb], ha⟩

/-- Which plan is read, and which rule is broken first, depends on the tokens alone. -/
theorem ofTokens_eq (line : List Char) {ps : List Placed} {ts : List Token}
    (h : ps.map (·.1) = ts) :
    ofTokens line ps =
      if ts = [] then .ok .noOp
      else if .pipe ∈ ts ∧ 0 < ts.countP Token.isRedirection then .error .pipeWithRedirection
      else if .pipe ∈ ts then
        if 0 < ts.count .background then .error .misplacedBackground else ofPipeline ps
      else if 0 < ts.countP Token.isRedirection then
        if 0 < ts.count .background then .error .misplacedBackground
        else if 1 < ts.countP Token.isRedirection then .error .multipleRedirections
        else ofRedirection line ps
      else if 0 < ts.count .background then
        if 1 < ts.count .background ∨ ts.getLast? ≠ some .background then
          .error .misplacedBackground
        else (command .missingCommand ps.dropLast).map .backgrounded
      else (command .missingCommand ps).map .simple := by
  subst h
  have hany : ps.any (·.1 == .pipe) = decide (.pipe ∈ ps.map (·.1)) := by
    simp [List.any_eq]
  have hcount : ps.countP (·.1 == .background) = (ps.map (·.1)).count .background := by
    rw [List.count, List.countP_map]
    rfl
  have hredir : ps.countP (·.1.isRedirection) = (ps.map (·.1)).countP Token.isRedirection := by
    rw [List.countP_map]
    rfl
  have hlast : ps.getLast?.map (·.1) = (ps.map (·.1)).getLast? := by
    rw [List.getLast?_map]
  have hempty : ps.isEmpty = decide (ps.map (·.1) = []) := by
    cases ps <;> simp
  simp only [ofTokens, hany, hcount, hredir, hlast, hempty, Bool.and_eq_true, Bool.or_eq_true,
    decide_eq_true_eq, bne_iff_ne]

/-- The ways in which the lexemes of a line make a plan. -/
inductive Reads (line : List Char) : List Lexeme → Plan → Prop
  | noOp {ls : List Lexeme} : tokens ls = [] → Reads line ls .noOp
  | simple {ls : List Lexeme} {cmd : SimpleCommand} :
      tokens ls = cmd.words.map .word → Reads line ls (.simple cmd)
  | piped {ls : List Lexeme} {cmds : List SimpleCommand} : 2 ≤ cmds.length →
      (tokens ls).splitOn .pipe = cmds.map (fun cmd => cmd.words.map .word) →
      Reads line ls (.piped cmds)
  | redirected {gap₀ raw₀ gap raw tail : List Char} {w : String} {ws vs : List String}
      {op : Token} {more after : List Lexeme} : op.isRedirection = true →
      tokens more = ws.map .word → tokens after = vs.map .word →
      line = gap₀ ++ raw₀ ++ (flatten more ++ gap) ++ raw ++ tail → bareText tail ≠ "" →
      Reads line (⟨gap₀, raw₀, .ok (.word w)⟩ :: (more ++ ⟨gap, raw, .ok op⟩ :: after))
        (.redirected ⟨⟨w, ws⟩, bareText (flatten more ++ gap), redirectMode op, bareText tail⟩)
  | backgrounded {ls : List Lexeme} {cmd : SimpleCommand} :
      tokens ls = cmd.words.map .word ++ [.background] → Reads line ls (.backgrounded cmd)

/-- A plan that the lexemes of a line make is read off it. -/
theorem parse_of_reads {line : String} {ls : List Lexeme} {plan : Plan}
    (h : Laid line.toList ls) (hf : NoFault ls) (hr : Reads line.toList ls plan) :
    parse line = .ok plan := by
  rw [parse_of_noFault h hf, ofTokens_eq _ (map_fst_placed 0 ls)]
  cases hr with
  | noOp ht => simp [ht]
  | @simple _ cmd ht =>
    have hcmd : command .missingCommand (placed (spansFrom 0 ls)) = .ok cmd :=
      command_eq_ok_iff.2 ((map_fst_placed 0 ls).trans ht)
    simp [ht, hcmd, SimpleCommand.words, Token.isRedirection, Except.map]
  | @piped _ cmds hlen ht =>
    have hpipe : .pipe ∈ tokens ls := by
      rw [← two_le_length_splitOn_iff, ht, List.length_map]
      exact hlen
    have hwords : (tokens ls).splitOn .pipe =
        (cmds.map SimpleCommand.words).map (List.map .word) := by
      rw [ht, List.map_map]
      rfl
    obtain ⟨hred, hback⟩ := no_operator_of_splitOn hwords
    have hplan : ofPipeline (placed (spansFrom 0 ls)) = .ok (.piped cmds) :=
      ofPipeline_eq_ok_iff.2 ⟨cmds, rfl, by rw [map_fst_placed, ht]⟩
    have hne : tokens ls ≠ [] := List.ne_nil_of_mem hpipe
    simp [hpipe, hred, hback, hplan, hne]
  | @redirected gap₀ raw₀ gap raw tail w ws vs op more after hop hmore hafter hline hne =>
    have ht : tokens (⟨gap₀, raw₀, .ok (.word w)⟩ :: (more ++ ⟨gap, raw, .ok op⟩ :: after)) =
        (w :: ws).map .word ++ op :: vs.map .word := by
      simp [hmore, hafter]
    have hred :
        ((w :: ws).map Token.word ++ op :: vs.map .word).countP Token.isRedirection = 1 := by
      rw [List.countP_append, List.countP_cons_of_pos hop, countP_isRedirection_words,
        countP_isRedirection_words]
    have hback : ((w :: ws).map Token.word ++ op :: vs.map .word).count .background = 0 := by
      have hne : op ≠ .background := by rintro rfl; simp [Token.isRedirection] at hop
      rw [List.count_append, List.count_cons_of_ne hne, count_background_words,
        count_background_words]
    have hpipe : .pipe ∉ (w :: ws).map Token.word ++ op :: vs.map .word := by
      have hne : .pipe ≠ op := by rintro rfl; simp [Token.isRedirection] at hop
      simp [hne]
    rw [ht, hred, hback, if_neg (by simp), if_neg (fun hm => hpipe hm.1), if_neg hpipe, hline,
      ofRedirection_of_words hop hmore, if_neg hne]
    simp
  | @backgrounded _ cmd ht =>
    have hcmd : command .missingCommand (placed (spansFrom 0 ls)).dropLast = .ok cmd := by
      refine command_eq_ok_iff.2 ?_
      rw [List.map_dropLast, map_fst_placed, ht, List.dropLast_concat]
    simp [ht, hcmd, Token.isRedirection, Except.map]

/-- The first word in front of a redirection is its program. -/
theorem reads_of_redirection {line : List Char} {ls : List Lexeme} {plan : Plan}
    (h : Laid line ls) (hf : NoFault ls) (hp : .pipe ∉ tokens ls)
    (hr : (tokens ls).countP Token.isRedirection = 1) (hb : (tokens ls).count .background = 0)
    (hplan : ofRedirection line (placed (spansFrom 0 ls)) = .ok plan) : Reads line ls plan := by
  obtain ⟨us, vs, op, hop, ht⟩ := exists_words_operator hp (by omega)
  replace hop : op.isRedirection = true := by
    refine hop.resolve_right fun he => ?_
    rw [ht, he, List.count_append, List.count_cons_self] at hb
    omega
  obtain ⟨before, gap, raw, after, rfl, hbefore, hafter⟩ := exists_lexeme_of_tokens_eq hf ht
  obtain ⟨hfb, -⟩ := (Lexeme.noFault_append _ _).1 hf
  cases before with
  | nil =>
    rw [List.nil_append, ofRedirection_of_op hop] at hplan
    contradiction
  | cons first more =>
    obtain ⟨gap₀, raw₀, e | t⟩ := first
    · simp at hfb
    · cases us with
      | nil => simp at hbefore
      | cons w ws =>
        simp only [Lexeme.tokens_cons_ok, List.map_cons, List.cons.injEq] at hbefore
        obtain ⟨rfl, hmore⟩ := hbefore
        obtain ⟨rest, hline, hrest⟩ := h.drop hfb
        obtain ⟨tail, rfl, -⟩ := hrest.token_inv
        have hsplit : line = gap₀ ++ raw₀ ++ (flatten more ++ gap) ++ raw ++ tail := by
          simp [hline]
        rw [hsplit, List.cons_append, ofRedirection_of_words hop hmore] at hplan
        split_ifs at hplan with hne
        cases hplan
        exact .redirected hop hmore hafter hsplit hne

/-- Whatever is read off a line is made by its lexemes. -/
theorem reads_of_parse {line : String} {ls : List Lexeme} {plan : Plan}
    (h : Laid line.toList ls) (hp : parse line = .ok plan) :
    NoFault ls ∧ Reads line.toList ls plan := by
  have hf : NoFault ls := by
    by_contra hn
    obtain ⟨fs, hfs⟩ := parse_of_not_noFault h hn
    rw [hp] at hfs
    contradiction
  refine ⟨hf, ?_⟩
  rw [parse_of_noFault h hf, ofTokens_eq _ (map_fst_placed 0 ls)] at hp
  split_ifs at hp with hnil hpr hpipe hback hred hback hmany hback hlast
  · cases hp
    exact .noOp hnil
  · obtain ⟨cmds, rfl, hcut⟩ := ofPipeline_eq_ok_iff.1 hp
    rw [map_fst_placed] at hcut
    refine .piped ?_ hcut
    rw [← List.length_map, ← hcut]
    exact two_le_length_splitOn_iff.2 hpipe
  · exact reads_of_redirection h hf hpipe (by omega) (by omega) hp
  · obtain ⟨us, hus⟩ := List.getLast?_eq_some_iff.1 (not_not.1 (not_or.1 hlast).2)
    cases hcmd : command .missingCommand (placed (spansFrom 0 ls)).dropLast with
    | error e => simp [hcmd, Except.map] at hp
    | ok cmd =>
      simp only [hcmd, Except.map, Except.ok.injEq] at hp
      subst hp
      have hwords := command_eq_ok_iff.1 hcmd
      rw [List.map_dropLast, map_fst_placed, hus, List.dropLast_concat] at hwords
      exact .backgrounded (by rw [hus, hwords])
  · cases hcmd : command .missingCommand (placed (spansFrom 0 ls)) with
    | error e => simp [hcmd, Except.map] at hp
    | ok cmd =>
      simp only [hcmd, Except.map, Except.ok.injEq] at hp
      subst hp
      exact .simple ((map_fst_placed 0 ls).symm.trans (command_eq_ok_iff.1 hcmd))

end Plan
end LineShell
