import LineShell.Proofs.Scan

/-!
# The verdict on a line

What becomes of a line is decided by a scan of its characters: how many pipes, redirections and
ampersands stand outside quotes, and whether something other than blanks stands around them. The
verdict is stated on marked characters alone; parsing comes to the same one.
-/
namespace LineShell

/-- What becomes of a line: one of the shapes of a plan, or the rule that it breaks. -/
inductive Verdict where
  | noOp
  | simple
  | piped
  | redirected (mode : RedirectMode)
  | backgrounded
  | unclosedQuote
  | pipeWithRedirection
  | emptyPipeStage
  | multipleRedirections
  | missingRedirectTarget
  | misplacedBackground
  | missingCommand
  deriving Repr, DecidableEq

namespace Verdict
open Token (Mark marks redirections isRedirectionMark)
open Lexeme (BlankMarks Laid NoFault tokens flatten IsGap spansFrom)
open Plan (placed)

def ofResult : Except ParseError Plan → Verdict
  | .ok .noOp => .noOp
  | .ok (.simple _) => .simple
  | .ok (.piped _) => .piped
  | .ok (.redirected r) => .redirected r.mode
  | .ok (.backgrounded _) => .backgrounded
  | .error (.lexer _) => .unclosedQuote
  | .error .pipeWithRedirection => .pipeWithRedirection
  | .error .emptyPipeStage => .emptyPipeStage
  | .error .multipleRedirections => .multipleRedirections
  | .error .missingRedirectTarget => .missingRedirectTarget
  | .error .misplacedBackground => .misplacedBackground
  | .error .missingCommand => .missingCommand

/-- The verdict on a redirection, given what stands after its operator. -/
def ofTarget (mode : RedirectMode) (after : List Mark) : Verdict :=
  if Plan.bareText (after.map (·.1)) = "" then .missingRedirectTarget else .redirected mode

/-- The verdict on a redirection, given the line from its operator on. -/
def ofOperator : List Mark → Verdict
  | ('>', true) :: ('>', true) :: after => ofTarget .append after
  | ('>', true) :: after => ofTarget .truncate after
  | ('<', true) :: after => ofTarget .readFrom after
  | _ => .missingRedirectTarget

/-- The verdict of the scan. Of several rules that a line breaks, the first one counts. -/
def ofLine (line : List Char) : Verdict :=
  let ms := marks false line
  let pipes := ms.count ('|', true)
  let ampersands := ms.count ('&', true)
  if line.count '"' % 2 = 1 then .unclosedQuote
  else if BlankMarks ms then .noOp
  else if 0 < pipes ∧ 0 < redirections ms then .pipeWithRedirection
  else if 0 < pipes ∧ 0 < ampersands then .misplacedBackground
  else if 0 < pipes then
    if ∀ piece ∈ ms.splitOn ('|', true), ¬ BlankMarks piece then .piped else .emptyPipeStage
  else if 0 < redirections ms ∧ 0 < ampersands then .misplacedBackground
  else if 1 < redirections ms then .multipleRedirections
  else if redirections ms = 1 then
    if BlankMarks (ms.takeWhile (!isRedirectionMark ·)) then .missingCommand
    else ofOperator (ms.dropWhile (!isRedirectionMark ·))
  else if 0 < ampersands then
    if 1 < ampersands ∨ ¬ BlankMarks (ms.dropWhile (· != ('&', true))).tail then
      .misplacedBackground
    else if BlankMarks (ms.takeWhile (· != ('&', true))) then .missingCommand
    else .backgrounded
  else .simple

/-- Reading the commands of stages that hold words only fails when one of the stages is empty. -/
theorem mapM_command_of_words (missing : ParseError) {sts : List (List Plan.Placed)}
    {wss : List (List String)} (h : sts.map (List.map (·.1)) = wss.map (List.map .word)) :
    (∃ cmds, [] ∉ wss ∧ sts.mapM (Plan.command missing) = .ok cmds) ∨
      ([] ∈ wss ∧ sts.mapM (Plan.command missing) = .error missing) := by
  induction sts generalizing wss with
  | nil =>
    have hwss : wss = [] := by simpa using h.symm
    exact .inl ⟨[], by simp [hwss], rfl⟩
  | cons st sts ih =>
    cases wss with
    | nil => simp at h
    | cons ws wss =>
      rw [List.map_cons, List.map_cons, List.cons.injEq] at h
      rw [List.mapM_cons, Plan.command_of_words h.1]
      cases ws with
      | nil => exact .inr ⟨by simp, rfl⟩
      | cons w ws =>
        obtain ⟨cmds, hmem, hok⟩ | ⟨hmem, herr⟩ := ih h.2
        · exact .inl ⟨⟨w, ws⟩ :: cmds, by simp [hmem], by rw [hok]; rfl⟩
        · exact .inr ⟨by simp [hmem], by rw [herr]; rfl⟩

/-- Tokens that are pipes and words only are cut at the pipes into words. -/
theorem exists_words_splitOn {ts : List Token} (hr : ts.countP Token.isRedirection = 0)
    (hb : ts.count .background = 0) :
    ∃ wss : List (List String), ts.splitOn .pipe = wss.map (List.map .word) := by
  induction ts with
  | nil => exact ⟨[[]], rfl⟩
  | cons t ts ih =>
    have hr' : ts.countP Token.isRedirection = 0 := by rw [List.countP_cons] at hr; omega
    have hb' : ts.count .background = 0 := by rw [List.count_cons] at hb; omega
    obtain ⟨wss, hwss⟩ := ih hr' hb'
    rw [List.splitOn_cons_eq_if_modifyHead, hwss]
    cases t with
    | pipe => exact ⟨[] :: wss, rfl⟩
    | word w => exact ⟨wss.modifyHead (w :: ·), by cases wss <;> rfl⟩
    | background => simp at hb
    | _ => simp [Token.isRedirection] at hr

/-- A pipeline is a plan when all of its stages hold words. -/
theorem ofResult_ofPipeline {ps : List Plan.Placed} {ts : List Token} (h : ps.map (·.1) = ts)
    (hr : ts.countP Token.isRedirection = 0) (hb : ts.count .background = 0) :
    ofResult (Plan.ofPipeline ps) =
      if [] ∉ ts.splitOn .pipe then .piped else .emptyPipeStage := by
  obtain ⟨wss, hwss⟩ := exists_words_splitOn hr hb
  have hstages := (Plan.map_stages ps).trans (h ▸ hwss)
  rw [hwss, Plan.ofPipeline]
  obtain ⟨cmds, hnot, hok⟩ | ⟨hempty, herr⟩ := mapM_command_of_words .emptyPipeStage hstages
  · rw [hok, if_pos (by simpa using hnot)]
    rfl
  · rw [herr, if_neg (by simpa using hempty)]
    rfl

/-- The scan cuts an operator off as the tokens do. -/
theorem ofOperator_append {op : Token} {raw rest : List Char} (hop : op.isRedirection = true)
    (hsp : op.Spells raw) (hst : op.Stops rest) :
    ofOperator (marks false raw ++ marks false rest) =
      ofTarget (Plan.redirectMode op) (marks false rest) := by
  cases hsp with
  | append => rfl
  | read => rfl
  | write =>
    cases rest with
    | nil => rfl
    | cons c cs =>
      have hc : c ≠ '>' := by simpa [Token.Stops] using hst
      simp [marks, ofOperator, hc, Plan.redirectMode]
  | _ => simp [Token.isRedirection] at hop

theorem takeWhile_append_of_head {α : Type} {p : α → Bool} {us vs : List α}
    (hu : ∀ u ∈ us, p u = true) (hv : ∀ v ∈ vs.head?, p v = false) :
    (us ++ vs).takeWhile p = us ∧ (us ++ vs).dropWhile p = vs := by
  rw [List.takeWhile_append_of_pos hu, List.dropWhile_append_of_pos hu]
  cases vs with
  | nil => simp
  | cons v vs =>
    have hv' : p v = false := hv v rfl
    simp [hv']

/-- A redirection is judged by what stands around its operator. -/
theorem ofResult_ofRedirection {line : List Char} {ls : List Lexeme} (h : Laid line ls)
    (hf : NoFault ls) (hp : .pipe ∉ tokens ls) (hr : (tokens ls).countP Token.isRedirection = 1)
    (hb : (tokens ls).count .background = 0) :
    ofResult (Plan.ofRedirection line (placed (spansFrom 0 ls))) =
      if BlankMarks ((marks false line).takeWhile (!isRedirectionMark ·)) then .missingCommand
      else ofOperator ((marks false line).dropWhile (!isRedirectionMark ·)) := by
  obtain ⟨us, vs, op, hop, ht⟩ := Plan.exists_words_operator hp (by omega)
  replace hop : op.isRedirection = true := by
    refine hop.resolve_right fun he => ?_
    rw [ht, he, List.count_append, List.count_cons_self] at hb
    omega
  obtain ⟨before, gap, raw, after, rfl, hbefore, -⟩ := Plan.exists_lexeme_of_tokens_eq hf ht
  obtain ⟨hfb, -⟩ := (Lexeme.noFault_append _ _).1 hf
  obtain ⟨rest, hline, hmarks, hplain, hblank, hsp, hst, -⟩ := h.cut hfb hbefore
  have hhead :
      ∀ m ∈ (marks false raw ++ marks false rest).head?, (!isRedirectionMark m) = false := by
    cases hsp <;> simp [Token.isRedirection, marks, isRedirectionMark] at hop ⊢
  obtain ⟨htake, hdrop⟩ := takeWhile_append_of_head
    (fun m hm => by simp [hplain.isRedirectionMark_eq_false hm]) hhead
  rw [hmarks, htake, hdrop, ofOperator_append hop hsp hst]
  cases before with
  | nil =>
    have hus : us = [] := by simpa using hbefore.symm
    rw [if_pos (hblank.2 hus), List.nil_append, Plan.ofRedirection_of_op hop]
    rfl
  | cons first more =>
    obtain ⟨gap₀, raw₀, e | t⟩ := first
    · simp at hfb
    · cases us with
      | nil => simp at hbefore
      | cons w ws =>
        simp only [Lexeme.tokens_cons_ok, List.map_cons, List.cons.injEq] at hbefore
        obtain ⟨rfl, hmore⟩ := hbefore
        have hsplit : line = gap₀ ++ raw₀ ++ (flatten more ++ gap) ++ raw ++ rest := by
          simp [hline]
        rw [if_neg (fun hg => List.cons_ne_nil w ws (hblank.1 hg)), hsplit, List.cons_append,
          Plan.ofRedirection_of_words hop hmore, ofTarget, Token.map_fst_marks]
        split_ifs <;> rfl

/-- What is before and after the only ampersand of a line is blank where no words are. -/
theorem blankMarks_around_background {line gap : List Char} {before after : List Lexeme}
    {us vs : List String} (h : Laid line (before ++ ⟨gap, ['&'], .ok .background⟩ :: after))
    (hfb : NoFault before) (hfa : NoFault after) (hbefore : tokens before = us.map .word)
    (hafter : tokens after = vs.map .word) :
    (BlankMarks ((marks false line).takeWhile (· != ('&', true))) ↔ us = []) ∧
      (BlankMarks ((marks false line).dropWhile (· != ('&', true))).tail ↔ vs = []) := by
  obtain ⟨rest, -, hmarks, hplain, hblank, -, -, hrest⟩ := h.cut hfb hbefore
  have hraw : marks false ['&'] = [('&', true)] := by decide
  have hfront : ∀ m ∈ marks false (flatten before ++ gap), (m != ('&', true)) = true :=
    fun m hm => bne_iff_ne.2 fun he => hplain.notMem (c := '&') (by decide) (he ▸ hm)
  have hhead :
      ∀ m ∈ (marks false ['&'] ++ marks false rest).head?, (m != ('&', true)) = false := by
    simp [hraw]
  obtain ⟨htake, hdrop⟩ := takeWhile_append_of_head hfront hhead
  have hfollow : BlankMarks (marks false rest) ↔ vs = [] := by
    rw [Lexeme.blankMarks_marks, ← hrest.tokens_eq_nil_iff hfa, hafter]
    simp
  rw [hmarks, htake, hdrop, hraw, List.singleton_append, List.tail_cons]
  exact ⟨hblank, hfollow⟩

/-- An ampersand is judged by what stands around it. -/
theorem ofResult_background {line : List Char} {ls : List Lexeme} (h : Laid line ls)
    (hf : NoFault ls) (hp : .pipe ∉ tokens ls) (hr : (tokens ls).countP Token.isRedirection = 0)
    (hb : 0 < (tokens ls).count .background) :
    ofResult (if 1 < (tokens ls).count .background ∨ (tokens ls).getLast? ≠ some .background then
        .error .misplacedBackground
      else (Plan.command .missingCommand (placed (spansFrom 0 ls)).dropLast).map .backgrounded) =
      if 1 < (tokens ls).count .background ∨
          ¬ BlankMarks ((marks false line).dropWhile (· != ('&', true))).tail then
        .misplacedBackground
      else if BlankMarks ((marks false line).takeWhile (· != ('&', true))) then .missingCommand
      else .backgrounded := by
  by_cases hmany : 1 < (tokens ls).count .background
  · rw [if_pos (.inl hmany), if_pos (.inl hmany)]
    rfl
  · obtain ⟨us, vs, op, hop, ht⟩ := Plan.exists_words_operator hp (by omega)
    obtain rfl : op = .background := by
      refine hop.resolve_left fun he => ?_
      rw [ht, List.countP_append, List.countP_cons_of_pos he] at hr
      omega
    obtain ⟨before, gap, raw, after, rfl, hbefore, hafter⟩ := Plan.exists_lexeme_of_tokens_eq hf ht
    obtain ⟨hfb, hfa⟩ := (Lexeme.noFault_append _ _).1 hf
    obtain ⟨-, -, -, -, -, hsp, -, -⟩ := h.cut hfb hbefore
    cases hsp
    obtain ⟨hblank, hfollow⟩ :=
      blankMarks_around_background h hfb (by simpa using hfa) hbefore hafter
    have hlast : (tokens (before ++ ⟨gap, ['&'], .ok .background⟩ :: after)).getLast? ≠
        some .background ↔ vs ≠ [] := by
      rw [ht]
      obtain rfl | ⟨vs, v, rfl⟩ := List.eq_nil_or_concat vs <;> simp [List.getLast?_cons]
    by_cases hvs : vs = []
    · have hwords :
          (placed (spansFrom 0 (before ++ ⟨gap, ['&'], .ok .background⟩ :: after))).dropLast.map
            (·.1) = us.map .word := by
        rw [List.map_dropLast, Plan.map_fst_placed, ht, hvs, List.map_nil, List.dropLast_concat]
      rw [if_neg (not_or.2 ⟨hmany, fun hl => hlast.1 hl hvs⟩),
        if_neg (not_or.2 ⟨hmany, not_not.2 (hfollow.2 hvs)⟩), Plan.command_of_words hwords]
      cases us with
      | nil => rw [if_pos (hblank.2 rfl)]; rfl
      | cons w ws => rw [if_neg (fun hg => List.cons_ne_nil w ws (hblank.1 hg))]; rfl
    · rw [if_pos (.inr (hlast.2 hvs)), if_pos (.inr (fun hg => hvs (hfollow.1 hg)))]
      rfl

theorem forall_not_blankMarks_iff {pieces : List (List Mark)} {stages : List (List Token)}
    (h : List.Forall₂ (fun piece stage => BlankMarks piece ↔ stage = []) pieces stages) :
    (∀ piece ∈ pieces, ¬ BlankMarks piece) ↔ [] ∉ stages := by
  induction h with
  | nil => simp
  | cons hhead _ ih =>
    rw [List.forall_mem_cons, List.mem_cons, not_or, hhead, ih, eq_comm]

/-- Parsing a line comes to the verdict of the scan, whatever the line is. -/
theorem ofResult_parse (line : String) : ofResult (Plan.parse line) = ofLine line.toList := by
  have h := Lexeme.laid_ofChars line.toList
  generalize Lexeme.ofChars line.toList = ls at h
  by_cases hf : NoFault ls
  · have hquotes : ¬ line.toList.count '"' % 2 = 1 := by
      have hopen := h.noFault_iff.1 hf
      rw [Token.quoteOpen_eq_count] at hopen
      simpa using hopen
    obtain ⟨hpipes, hampersands, hredirs⟩ := h.counts hf
    have hempty : BlankMarks (marks false line.toList) ↔ tokens ls = [] :=
      Lexeme.blankMarks_marks.trans (h.tokens_eq_nil_iff hf).symm
    rw [ofLine, if_neg hquotes, Plan.parse_of_noFault h hf,
      Plan.ofTokens_eq _ (Plan.map_fst_placed 0 ls), hpipes, hampersands, hredirs]
    by_cases hnil : tokens ls = []
    · rw [if_pos hnil, if_pos (hempty.2 hnil)]
      rfl
    rw [if_neg hnil, if_neg (mt hempty.1 hnil)]
    by_cases hp : .pipe ∈ tokens ls
    · have hcount : 0 < (tokens ls).count .pipe := List.count_pos_iff.2 hp
      by_cases hr : 0 < (tokens ls).countP Token.isRedirection
      · rw [if_pos ⟨hp, hr⟩, if_pos ⟨hcount, hr⟩]
        rfl
      rw [if_neg (not_and_of_not_right _ hr), if_neg (not_and_of_not_right _ hr), if_pos hp]
      by_cases hb : 0 < (tokens ls).count .background
      · rw [if_pos hb, if_pos ⟨hcount, hb⟩]
        rfl
      rw [if_neg hb, if_neg (not_and_of_not_right _ hb), if_pos hcount,
        ofResult_ofPipeline (Plan.map_fst_placed 0 ls) (by omega) (by omega)]
      simp only [forall_not_blankMarks_iff (h.splitOn_marks hf)]
    · have hcount : ¬ 0 < (tokens ls).count .pipe := mt List.count_pos_iff.1 hp
      rw [if_neg (not_and_of_not_left _ hp), if_neg hp, if_neg (not_and_of_not_left _ hcount),
        if_neg (not_and_of_not_left _ hcount), if_neg hcount]
      by_cases hr : 0 < (tokens ls).countP Token.isRedirection
      · rw [if_pos hr]
        by_cases hb : 0 < (tokens ls).count .background
        · rw [if_pos hb, if_pos ⟨hr, hb⟩]
          rfl
        rw [if_neg hb, if_neg (not_and_of_not_right _ hb)]
        by_cases hmany : 1 < (tokens ls).countP Token.isRedirection
        · rw [if_pos hmany, if_pos hmany]
          rfl
        have hone : (tokens ls).countP Token.isRedirection = 1 := by omega
        rw [if_neg hmany, if_neg hmany, if_pos hone]
        exact ofResult_ofRedirection h hf hp (by omega) (by omega)
      · have hmany : ¬ 1 < (tokens ls).countP Token.isRedirection := by omega
        have hone : ¬ (tokens ls).countP Token.isRedirection = 1 := by omega
        rw [if_neg hr, if_neg (not_and_of_not_left _ hr), if_neg hmany, if_neg hone]
        by_cases hb : 0 < (tokens ls).count .background
        · rw [if_pos hb, if_pos hb]
          exact ofResult_background h hf hp (by omega) hb
        · obtain ⟨ws, hws⟩ := Plan.exists_words hp (by omega) (by omega)
          rw [if_neg hb, if_neg hb, Plan.command_of_words ((Plan.map_fst_placed 0 ls).trans hws)]
          cases ws with
          | nil => exact absurd hws hnil
          | cons w ws => rfl
  · obtain ⟨fs, hfs⟩ := Plan.parse_of_not_noFault h hf
    have hopen := fun he => hf (h.noFault_iff.2 he)
    rw [Token.quoteOpen_eq_count] at hopen
    have hquotes : line.toList.count '"' % 2 = 1 := by simpa using hopen
    rw [ofLine, if_pos hquotes, hfs]
    rfl

-- `>>>` is two redirections, and an operator between quotes is none
example : ofLine "echo \"|\" >>> f".toList = .multipleRedirections := by decide

end Verdict
end LineShell
