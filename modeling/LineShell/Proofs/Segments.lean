import LineShell.Proofs.Verdict
import LineShell.Proofs.Writing

/-!
# A line and its parts

The unquoted pipes of a line cut it into segments. What a pipeline asks for is what its segments ask
for one by one, and joining lines with pipes is joining their commands. In the same way, a command
in the background is a command with an ampersand after it.
-/
namespace LineShell

namespace Token

/-- The parts of a line between its unquoted pipes. -/
def segments (line : String) : List String :=
  ((marks false line.toList).splitOn ('|', true)).map fun piece =>
    String.ofList (piece.map (·.1))

theorem map_intercalate {α β : Type} (f : α → β) (sep : List α) (pieces : List (List α)) :
    (sep.intercalate pieces).map f = (sep.map f).intercalate (pieces.map (List.map f)) := by
  induction pieces with
  | nil => rfl
  | cons piece pieces ih =>
    cases pieces with
    | nil => simp
    | cons next pieces =>
      rw [List.intercalate_cons_cons, List.map_append, List.map_append, ih]
      exact List.intercalate_cons_cons.symm

/-- Pipes between its segments make the line. -/
theorem intercalate_segments (line : String) : "|".intercalate (segments line) = line := by
  have hcut : ['|'].intercalate (((marks false line.toList).splitOn ('|', true)).map
      (List.map (·.1))) = line.toList := by
    have h : [('|', true)].intercalate ((marks false line.toList).splitOn ('|', true)) =
        marks false line.toList := List.intercalate_splitOn ('|', true)
    replace h := congrArg (List.map (·.1)) h
    rwa [map_intercalate, map_fst_marks] at h
  apply String.toList_inj.1
  rw [String.toList_intercalate, segments, List.map_map]
  refine Eq.trans ?_ hcut
  simp [Function.comp_def]

/-- No quote is open at the end of what writes tokens. -/
theorem Writes.quoteOpen {ts : List Token} {line : String} (h : Writes ts line) :
    Token.quoteOpen false line.toList = false := by
  obtain ⟨ls, hlaid, hf, -⟩ := writes_iff.1 h
  exact hlaid.noFault_iff.1 hf

/-- What writes no pipe has none outside quotes. -/
theorem Writes.pipe_notMem_marks {ts : List Token} {line : String} (h : Writes ts line)
    (hp : .pipe ∉ ts) : ('|', true) ∉ marks false line.toList := by
  obtain ⟨ls, hlaid, hf, rfl⟩ := writes_iff.1 h
  rw [← List.count_eq_zero, (hlaid.counts hf).1, List.count_eq_zero]
  exact hp

theorem Writes.segments_eq_singleton {ts : List Token} {line : String} (h : Writes ts line)
    (hp : .pipe ∉ ts) : segments line = [line] := by
  rw [segments, List.splitOn_eq_singleton (h.pipe_notMem_marks hp)]
  simp

theorem Writes.segments_append {ts : List Token} {line : String} (h : Writes ts line)
    (hp : .pipe ∉ ts) (rest : String) :
    segments (line ++ "|" ++ rest) = line :: segments rest := by
  have hmarks : marks false (line ++ "|" ++ rest).toList =
      marks false line.toList ++ ('|', true) :: marks false rest.toList := by
    simp [h.quoteOpen, marks]
  rw [segments, hmarks, List.splitOn_append_cons_self_of_not_mem (h.pipe_notMem_marks hp)]
  simp [segments]

/-- What writes tokens with an operator among them is cut in front of it and after it. -/
theorem Writes.exists_append {ts us : List Token} {op : Token} {line : String}
    (h : Writes (ts ++ op :: us) line) : ∃ front raw back, WrittenAs op raw ∧
      line = front ++ String.ofList raw ++ back ∧ Writes ts front ∧ Writes us back := by
  obtain ⟨ws, tail, hws, hchain, ht, hline⟩ := h
  obtain ⟨before, after, rfl, rfl, hafter⟩ := List.map_eq_append_iff.1 hws
  obtain ⟨w, after, rfl, rfl, rfl⟩ := List.map_eq_cons_iff.1 hafter
  refine ⟨String.ofList (before.flatMap Written.chars ++ w.gap), w.raw,
    String.ofList (after.flatMap Written.chars ++ tail), w.writtenAs, ?_, ?_, ?_⟩
  · apply String.toList_inj.1
    simp [hline, Written.chars]
  · exact ⟨before, w.gap, rfl, hchain.left_of_append, w.isGap, by simp⟩
  · exact ⟨after, tail, rfl, hchain.right_of_append.of_cons, ht, by simp⟩

/-- An operator that no token runs into may follow whatever is written. -/
theorem exists_laid_append {s raw rest : List Char} {ls ms : List Lexeme} {op : Token}
    (h : Lexeme.Laid s ls) (hf : Lexeme.NoFault ls) (hsp : Spells op raw) (hst : Stops op rest)
    (hop : ∀ t, runsInto t op = false) (hrest : Lexeme.Laid rest ms) :
    ∃ gap, Lexeme.Laid (s ++ (raw ++ rest)) (ls ++ ⟨gap, raw, .ok op⟩ :: ms) := by
  induction h with
  | @done s hg =>
    refine ⟨s, ?_⟩
    rw [← List.append_assoc]
    exact .token hg hsp hst hrest
  | @token gap₁ raw₁ rest₁ t ls hg hsp₁ hst₁ _ ih =>
    obtain ⟨gap, hlaid⟩ := ih ((Lexeme.noFault_cons_ok gap₁ raw₁ t ls).1 hf)
    have hstop : Stops t (rest₁ ++ (raw ++ rest)) := by
      cases rest₁ with
      | nil => exact (stops_append_iff hsp).2 (hop t)
      | cons c cs => cases t <;> simp_all [Stops]
    refine ⟨gap, ?_⟩
    rw [List.append_assoc]
    exact .token hg hsp₁ hstop hlaid
  | fault => simp at hf

/-- Lines are joined by an operator that no token runs into. -/
theorem Writes.append {ts us : List Token} {op : Token} {raw : List Char} {line rest : String}
    (h : Writes ts line) (hraw : WrittenAs op raw) (hop : ∀ t, runsInto t op = false)
    (hst : ∀ s, Stops op s) (hrest : Writes us rest) :
    Writes (ts ++ op :: us) (line ++ String.ofList raw ++ rest) := by
  obtain ⟨ls, hlaid, hf, rfl⟩ := writes_iff.1 h
  obtain ⟨ms, hlaid', hf', rfl⟩ := writes_iff.1 hrest
  obtain ⟨gap, hjoined⟩ := exists_laid_append hlaid hf (writtenAs_iff_spells.1 hraw) (hst _) hop
    hlaid'
  refine writes_iff.2 ⟨_, by simpa using hjoined, ?_, by simp⟩
  simpa using ⟨hf, hf'⟩

/-- A line that writes tokens is cut into lines that write what is between the pipes. -/
theorem Writes.forall₂_segments {ts : List Token} {line : String} (h : Writes ts line) :
    List.Forall₂ Writes (ts.splitOn .pipe) (segments line) := by
  -- the line is cut at its first pipe, and what comes after it is shorter
  induction hn : ts.length using Nat.strong_induction_on generalizing ts line with
  | _ n ih =>
    by_cases hp : .pipe ∈ ts
    · obtain ⟨us, vs, rfl, hus⟩ := List.eq_append_cons_of_mem hp
      obtain ⟨front, raw, back, hraw, rfl, hfront, hback⟩ := h.exists_append
      have hpipe : String.ofList raw = "|" := by cases hraw; rfl
      rw [List.splitOn_append_cons_self_of_not_mem hus, hpipe, hfront.segments_append hus]
      refine .cons hfront (ih vs.length ?_ hback rfl)
      rw [← hn, List.length_append, List.length_cons]
      omega
    · rw [List.splitOn_eq_singleton hp, h.segments_eq_singleton hp]
      exact .cons h .nil

/-- Lines that write tokens are joined by pipes into one that writes all of them. -/
theorem writes_intercalate {tss : List (List Token)} {lines : List String}
    (h : List.Forall₂ Writes tss lines) (hne : lines ≠ []) :
    Writes ([.pipe].intercalate tss) ("|".intercalate lines) := by
  induction h with
  | nil => contradiction
  | @cons ts line tss lines hline hlines ih =>
    cases hlines with
    | nil => simpa using hline
    | cons hnext hmore =>
      have hrest := ih (by simp)
      rw [List.intercalate_cons_cons, String.intercalate_cons_cons, List.append_assoc]
      exact hline.append .pipe (by intro t; cases t <;> rfl) (fun _ => trivial) hrest

end Token

namespace Plan
open Token (Writes segments)
open Lexeme (Laid NoFault tokens spansFrom)

/-- A plan that one list of tokens asks for, and no other. -/
theorem parse_eq_ok_iff_writes {line : String} {plan : Plan} {ts : List Token}
    (hr : ∀ r, plan ≠ .redirected r) (h : ∀ us, AskedBy us plan ↔ us = ts) :
    parse line = .ok plan ↔ Writes ts line := by
  constructor
  · intro hp
    obtain ⟨us, hus⟩ := exists_writes_of_parse hp
    obtain rfl := (h us).1 ((parse_eq_ok_iff_askedBy hus hr).1 hp)
    exact hus
  · intro hw
    exact (parse_eq_ok_iff_askedBy hw hr).2 ((h ts).2 rfl)

theorem parse_eq_noOp_iff {line : String} : parse line = .ok .noOp ↔ Writes [] line :=
  parse_eq_ok_iff_writes (by simp) fun _ => Iff.rfl

theorem parse_eq_simple_iff {line : String} {cmd : SimpleCommand} :
    parse line = .ok (.simple cmd) ↔ Writes (cmd.words.map .word) line :=
  parse_eq_ok_iff_writes (by simp) fun _ => Iff.rfl

theorem parse_eq_backgrounded_iff {line : String} {cmd : SimpleCommand} :
    parse line = .ok (.backgrounded cmd) ↔ Writes (cmd.words.map .word ++ [.background]) line :=
  parse_eq_ok_iff_writes (by simp) fun _ => Iff.rfl

/-- Lines that are commands one by one write the words of the commands. -/
theorem map_parse_eq_simple_iff {lines : List String} {cmds : List SimpleCommand} :
    lines.map parse = cmds.map (fun cmd => .ok (.simple cmd)) ↔
      List.Forall₂ Writes (cmds.map fun cmd => cmd.words.map .word) lines := by
  induction lines generalizing cmds with
  | nil => cases cmds <;> simp
  | cons line lines ih => cases cmds <;> simp [parse_eq_simple_iff, ih]

/-- Words with pipes between them are cut at the pipes. -/
theorem splitOn_intercalate_words {wss : List (List String)} (h : wss ≠ []) :
    ([Token.pipe].intercalate (wss.map (List.map .word))).splitOn .pipe =
      wss.map (List.map .word) :=
  List.splitOn_intercalate _ (by simp) (by simpa using h)

/-- Commands that are joined by pipes make a pipeline. -/
theorem parse_intercalate {lines : List String} {cmds : List SimpleCommand}
    (hlen : 2 ≤ cmds.length) (h : lines.map parse = cmds.map fun cmd => .ok (.simple cmd)) :
    parse ("|".intercalate lines) = .ok (.piped cmds) := by
  have hwrites := map_parse_eq_simple_iff.1 h
  have hne : lines ≠ [] := by
    rintro rfl
    simp only [List.map_nil, List.nil_eq, List.map_eq_nil_iff] at h
    simp [h] at hlen
  have hwords : (cmds.map fun cmd => cmd.words.map Token.word) =
      (cmds.map SimpleCommand.words).map (List.map .word) := by
    simp
  have hne' : cmds.map SimpleCommand.words ≠ [] := by
    rintro hnil
    simp [List.map_eq_nil_iff.1 hnil] at hlen
  refine (parse_eq_ok_iff_askedBy (Token.writes_intercalate hwrites hne) (by simp)).2 ⟨hlen, ?_⟩
  rw [hwords, splitOn_intercalate_words hne']

/-- The segments of a pipeline are its stages. -/
theorem map_parse_segments {line : String} {cmds : List SimpleCommand}
    (h : parse line = .ok (.piped cmds)) :
    (segments line).map parse = cmds.map fun cmd => .ok (.simple cmd) := by
  obtain ⟨ts, hts⟩ := exists_writes_of_parse h
  obtain ⟨-, hcut⟩ := (parse_eq_ok_iff_askedBy hts (by simp)).1 h
  rw [map_parse_eq_simple_iff, ← hcut]
  exact hts.forall₂_segments

/-- A line with pipes and words only is refused when a stage has no words. -/
theorem parse_eq_emptyPipeStage {line : String} {ts : List Token} {wss : List (List String)}
    (h : Writes ts line) (hcut : ts.splitOn .pipe = wss.map (List.map .word))
    (hlen : 2 ≤ wss.length) (hempty : [] ∈ wss) : parse line = .error .emptyPipeStage := by
  obtain ⟨ls, hlaid, hf, rfl⟩ := Token.writes_iff.1 h
  have hpipe : .pipe ∈ tokens ls := by
    rw [← two_le_length_splitOn_iff, hcut, List.length_map]
    exact hlen
  obtain ⟨hred, hback⟩ := no_operator_of_splitOn hcut
  have hstages : (stages (placed (spansFrom 0 ls))).map (List.map (·.1)) =
      wss.map (List.map .word) := by
    rw [map_stages, map_fst_placed, hcut]
  rw [parse_of_noFault hlaid hf, ofTokens_eq _ (map_fst_placed 0 ls), if_neg
    (List.ne_nil_of_mem hpipe), hred, hback, if_neg (by simp), if_pos hpipe, if_neg (by simp),
    ofPipeline]
  obtain ⟨cmds, hnot, -⟩ | ⟨-, herr⟩ := Verdict.mapM_command_of_words .emptyPipeStage hstages
  · exact absurd hempty hnot
  · rw [herr]
    rfl

/-- Lines that are commands or blank write words, none where they are blank. -/
theorem exists_words_of_parse {lines : List String}
    (h : ∀ line ∈ lines, parse line = .ok .noOp ∨ ∃ cmd, parse line = .ok (.simple cmd)) :
    ∃ wss : List (List String), List.Forall₂ Writes (wss.map (List.map .word)) lines ∧
      ((∃ line ∈ lines, parse line = .ok .noOp) → [] ∈ wss) := by
  induction lines with
  | nil => exact ⟨[], .nil, by simp⟩
  | cons line lines ih =>
    obtain ⟨hline, hlines⟩ := List.forall_mem_cons.1 h
    obtain ⟨wss, hwss, hempty⟩ := ih hlines
    obtain hnoOp | ⟨cmd, hcmd⟩ := hline
    · exact ⟨[] :: wss, .cons (parse_eq_noOp_iff.1 hnoOp) hwss, by simp⟩
    · refine ⟨cmd.words :: wss, .cons (parse_eq_simple_iff.1 hcmd) hwss, ?_⟩
      simpa [hcmd] using fun other hother hp => .inr (hempty ⟨other, hother, hp⟩)

/-- Lines that are commands or blank make no pipeline when one of them is blank. -/
theorem parse_intercalate_of_noOp {lines : List String} (hlen : 2 ≤ lines.length)
    (h : ∀ line ∈ lines, parse line = .ok .noOp ∨ ∃ cmd, parse line = .ok (.simple cmd))
    (hblank : ∃ line ∈ lines, parse line = .ok .noOp) :
    parse ("|".intercalate lines) = .error .emptyPipeStage := by
  obtain ⟨wss, hwrites, hempty⟩ := exists_words_of_parse h
  have hlen' : 2 ≤ wss.length := by
    rw [← List.length_map (List.map Token.word), hwrites.length_eq]
    exact hlen
  have hne : lines ≠ [] := by rintro rfl; simp at hlen
  have hne' : wss ≠ [] := by rintro rfl; simp at hlen'
  exact parse_eq_emptyPipeStage (Token.writes_intercalate hwrites hne)
    (splitOn_intercalate_words hne') hlen' (hempty hblank)

/-- A command in the background is a command, an ampersand and blanks. -/
theorem parse_eq_backgrounded_iff_exists {line : String} {cmd : SimpleCommand} :
    parse line = .ok (.backgrounded cmd) ↔ ∃ front blanks, line = front ++ "&" ++ blanks ∧
      Lexeme.IsGap blanks.toList ∧ parse front = .ok (.simple cmd) := by
  rw [parse_eq_backgrounded_iff]
  constructor
  · intro h
    obtain ⟨front, raw, blanks, hraw, rfl, hfront, hblanks⟩ := h.exists_append
    obtain ⟨ls, hlaid, hf, hts⟩ := Token.writes_iff.1 hblanks
    refine ⟨front, blanks, ?_, (hlaid.tokens_eq_nil_iff hf).1 hts, parse_eq_simple_iff.2 hfront⟩
    cases hraw
    rfl
  · rintro ⟨front, blanks, rfl, hblanks, hfront⟩
    have hnone : Writes [] blanks := Token.writes_iff.2 ⟨[], .done hblanks, by simp, rfl⟩
    exact (parse_eq_simple_iff.1 hfront).append .background (by intro t; cases t <;> rfl)
      (fun _ => trivial) hnone

/-- What a line asks for is made of what its parts ask for. Commands that are joined by pipes make
the pipeline of them, and the segments of a pipeline are its stages, each a command by itself; if
one of the segments is blank, there is no pipeline. A command in the background is a command with an
ampersand and blanks after it. -/
theorem parse_parts :
    (∀ (lines : List String) (cmds : List SimpleCommand), 2 ≤ cmds.length →
        lines.map parse = cmds.map (fun cmd => .ok (.simple cmd)) →
        parse ("|".intercalate lines) = .ok (.piped cmds)) ∧
      (∀ (line : String) (cmds : List SimpleCommand), parse line = .ok (.piped cmds) →
        (segments line).map parse = cmds.map fun cmd => .ok (.simple cmd)) ∧
      (∀ line : String, 2 ≤ (segments line).length →
        (∀ part ∈ segments line,
          parse part = .ok .noOp ∨ ∃ cmd, parse part = .ok (.simple cmd)) →
        (∃ part ∈ segments line, parse part = .ok .noOp) →
        parse line = .error .emptyPipeStage) ∧
      ∀ (line : String) (cmd : SimpleCommand), parse line = .ok (.backgrounded cmd) ↔
        ∃ front blanks, line = front ++ "&" ++ blanks ∧ Lexeme.IsGap blanks.toList ∧
          parse front = .ok (.simple cmd) := by
  refine ⟨fun _ _ => parse_intercalate, fun _ _ => map_parse_segments, ?_,
    fun _ _ => parse_eq_backgrounded_iff_exists⟩
  intro line hlen h hblank
  have hparse := parse_intercalate_of_noOp hlen h hblank
  rwa [Token.intercalate_segments] at hparse

/-- A pipe between quotes, an empty stage, and a command in the background. -/
theorem parse_parts_quoted_pipe :
    parse "ls -l|w\"|\"c" = .ok (.piped [⟨"ls", ["-l"]⟩, ⟨"w|c", []⟩]) ∧
      (segments "ls -l|w\"|\"c").map parse =
        [.ok (.simple ⟨"ls", ["-l"]⟩), .ok (.simple ⟨"w|c", []⟩)] ∧
      parse "ls| |wc" = .error .emptyPipeStage ∧
      parse "sleep 5 & " = .ok (.backgrounded ⟨"sleep", ["5"]⟩) := by
  obtain ⟨hjoin, hcut, hempty, hback⟩ := parse_parts
  have hpiped := hjoin ["ls -l", "w\"|\"c"] [⟨"ls", ["-l"]⟩, ⟨"w|c", []⟩] (by decide)
    (by decide +kernel)
  have hline : "|".intercalate ["ls -l", "w\"|\"c"] = "ls -l|w\"|\"c" := by decide
  rw [hline] at hpiped
  have hparts : segments "ls| |wc" = ["ls", " ", "wc"] := by decide
  refine ⟨hpiped, hcut _ _ hpiped, hempty "ls| |wc" (by simp [hparts]) ?_ ?_, ?_⟩
  · rw [hparts]
    simp only [List.forall_mem_cons, List.not_mem_nil, false_imp_iff, implies_true, and_true]
    exact ⟨.inr ⟨⟨"ls", []⟩, by decide +kernel⟩, .inl (by decide +kernel),
      .inr ⟨⟨"wc", []⟩, by decide +kernel⟩⟩
  · exact ⟨" ", by simp [hparts], by decide +kernel⟩
  · exact (hback _ _).2 ⟨"sleep 5 ", " ", by decide +kernel, Lexeme.isGap_space, by decide +kernel⟩

end Plan
end LineShell
