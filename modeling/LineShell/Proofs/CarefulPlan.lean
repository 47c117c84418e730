import LineShell.Proofs.Tiling
import LineShell.Proofs.Verdict

/-!
# Planning with every step checked

The planner takes tokens for words, takes an operator to be among them and takes parts of a line
between offsets, because of what it counted before and because of how the tokens stand in the line.
The careful planner does what the planner does, but checks each of these and stops where one does
not hold. It stops for no line.
-/
namespace LineShell

namespace Plan
open Text (IsBoundary byteLength slice)
variable {line : List Char} {ps before after : List Placed} {op : Token} {place : Span}

/-! ## What the planner does, with checks -/

/-- Why the careful planner ends without a plan: a line breaks a rule, or something is not what it
was taken for. -/
inductive Stop where
  | refused (e : ParseError)
  /-- A token among words is an operator. -/
  | noWord (token : Token)
  /-- No token is a redirection. -/
  | noRedirection
  /-- There is no last token to take off. -/
  | noToken
  /-- The offsets are out of order, out of the line or inside of a character. -/
  | outOfLine (start stop : ℕ)
  deriving Repr, DecidableEq

namespace Careful

/-- The texts of tokens that are all words. -/
def words : List Placed → Except Stop (List String)
  | [] => .ok []
  | (.word text, _) :: rest => (words rest).map (text :: ·)
  | (token, _) :: _ => .error (.noWord token)

/-- The command spelled by tokens that are all words. -/
def command (missing : ParseError) (tokens : List Placed) : Except Stop SimpleCommand := do
  match SimpleCommand.ofWords? (← words tokens) with
  | some cmd => .ok cmd
  | none => .error (.refused missing)

/-- The plan of a line whose operators are pipes only. -/
def ofPipeline (tokens : List Placed) : Except Stop Plan :=
  ((stages tokens).mapM (command .emptyPipeStage)).map .piped

def part (line : List Char) (start stop : ℕ) : Except Stop (List Char) :=
  if start ≤ stop ∧ IsBoundary line start ∧ IsBoundary line stop then .ok (slice line start stop)
  else .error (.outOfLine start stop)

/-- The plan of a line with one redirection and no other operator. The tokens up to the operator
are kept, the operator is taken off their end, and the rest of them are the command. -/
def ofRedirection (line : List Char) (tokens : List Placed) : Except Stop Plan := do
  let some index := tokens.findIdx? (·.1.isRedirection) | .error .noRedirection
  let upTo := tokens.take (index + 1)
  let some (operator, place) := upTo.getLast? | .error .noToken
  let before := upTo.dropLast
  let (_, first) :: _ := before | .error (.refused .missingCommand)
  let text ← part line first.stop place.start
  let cmd ← command .missingCommand before
  let target ← part line place.stop (byteLength line)
  if bareText target = "" then .error (.refused .missingRedirectTarget)
  else .ok (.redirected ⟨cmd, bareText text, redirectMode operator, bareText target⟩)

/-- The plan of a line without faults, given its tokens. -/
def ofTokens (line : List Char) (tokens : List Placed) : Except Stop Plan :=
  let piped := tokens.any (·.1 == .pipe)
  let redirections := tokens.countP (·.1.isRedirection)
  let backgrounds := tokens.countP (·.1 == .background)
  if tokens.isEmpty then .ok .noOp
  else if piped && 0 < redirections then .error (.refused .pipeWithRedirection)
  else if piped then
    if 0 < backgrounds then .error (.refused .misplacedBackground) else ofPipeline tokens
  else if 0 < redirections then
    if 0 < backgrounds then .error (.refused .misplacedBackground)
    else if 1 < redirections then .error (.refused .multipleRedirections)
    else ofRedirection line tokens
  else if 0 < backgrounds then
    if 1 < backgrounds || tokens.getLast?.map (·.1) != some .background then
      .error (.refused .misplacedBackground)
    else (command .missingCommand tokens.dropLast).map .backgrounded
  else (command .missingCommand tokens).map .simple

def parse (line : String) : Except Stop Plan :=
  let found := Token.lex line
  match faults found with
  | [] => ofTokens line.toList (placed found)
  | fs => .error (.refused (.lexer fs))

end Careful

/-! ## Tokens that are all words -/

/-- Tokens that are all words. -/
def AllWords (ps : List Placed) : Prop :=
  ∀ p ∈ ps, ∃ text, p.1 = .word text

/-- What is no operator is a word. -/
theorem exists_word {t : Token} (hp : t ≠ .pipe) (hr : t.isRedirection = false)
    (hb : t ≠ .background) : ∃ text, t = .word text := by
  cases t with
  | word text => exact ⟨text, rfl⟩
  | pipe => contradiction
  | background => contradiction
  | _ => contradiction

theorem allWords_of_countP (hp : ps.any (·.1 == .pipe) = false)
    (hr : ps.countP (·.1.isRedirection) = 0) (hb : ps.countP (·.1 == .background) = 0) :
    AllWords ps := by
  intro p hmem
  rw [List.any_eq_false] at hp
  rw [List.countP_eq_zero] at hr hb
  exact exists_word (by simpa using hp p hmem) (by simpa using hr p hmem) (by simpa using hb p hmem)

/-- The stages are all words if there is no other operator than pipes. -/
theorem allWords_of_mem_stages (hr : ps.countP (·.1.isRedirection) = 0)
    (hb : ps.countP (·.1 == .background) = 0) {stage : List Placed} (hs : stage ∈ stages ps) :
    AllWords stage := by
  have hr' : (ps.map (·.1)).countP Token.isRedirection = 0 := by
    rwa [List.countP_map]
  have hb' : (ps.map (·.1)).count .background = 0 := by
    rwa [List.count, List.countP_map]
  obtain ⟨wss, hwss⟩ := Verdict.exists_words_splitOn hr' hb'
  have hmem : stage.map (·.1) ∈ (stages ps).map (List.map (·.1)) := List.mem_map_of_mem hs
  rw [map_stages, hwss] at hmem
  obtain ⟨ws, -, hws⟩ := List.mem_map.1 hmem
  intro p hp
  have hword : p.1 ∈ ws.map Token.word := hws ▸ List.mem_map_of_mem hp
  obtain ⟨text, -, htext⟩ := List.mem_map.1 hword
  exact ⟨text, htext.symm⟩

/-- What stands in front of the mark at the end is all words if it is the only operator. -/
theorem allWords_dropLast (hp : ps.any (·.1 == .pipe) = false)
    (hr : ps.countP (·.1.isRedirection) = 0) (hb : ps.countP (·.1 == .background) ≤ 1)
    (hlast : ps.getLast?.map (·.1) = some .background) : AllWords ps.dropLast := by
  obtain ⟨last, hps, hmark⟩ := Option.map_eq_some_iff.1 hlast
  obtain ⟨front, rfl⟩ := List.getLast?_eq_some_iff.1 hps
  rw [List.countP_append, List.countP_singleton, hmark] at hb
  rw [List.countP_append] at hr
  rw [List.any_append, Bool.or_eq_false_iff] at hp
  rw [List.dropLast_concat]
  exact allWords_of_countP hp.1 (by omega) (by simpa using hb)

/-! ## Tokens in their places -/

/-- Tokens that stand in a line one after the other. -/
structure InPlace (line : List Char) (ps : List Placed) : Prop where
  boundary : ∀ p ∈ ps, IsBoundary line p.2.start ∧ IsBoundary line p.2.stop
  ordered : ps.Pairwise fun a b => a.2.stop ≤ b.2.start

theorem map_snd_placed_sublist (found : List (Except LexError Token × Span)) :
    ((placed found).map (·.2)).Sublist (found.map (·.2)) := by
  induction found with
  | nil => exact .slnil
  | cons p found ih =>
    obtain ⟨e | t, span⟩ := p
    · exact ih.cons span
    · exact ih.cons_cons span

theorem inPlace_placed_lex (line : String) : InPlace line.toList (placed (Token.lex line)) := by
  have htile := (Lexeme.laid_ofChars line.toList).tile
  have hsub := map_snd_placed_sublist (Token.lex line)
  constructor
  · intro p hp
    exact htile.boundary p.2 (hsub.subset (List.mem_map_of_mem hp))
  · exact List.pairwise_map.1 (htile.ordered.sublist hsub)

/-- The tokens around the operator of a redirection: there are words in front of it, the first of
them ends before it begins, and all of these places are offsets of the line. -/
structure Parted (line : List Char) (before : List Placed) (place : Span) : Prop where
  words : AllWords before
  first_le : ∀ first ∈ before.head?, first.2.stop ≤ place.start
  first_boundary : ∀ first ∈ before.head?, IsBoundary line first.2.stop
  start_boundary : IsBoundary line place.start
  stop_boundary : IsBoundary line place.stop
  stop_le : place.stop ≤ byteLength line

/-- Tokens with one redirection and no other operator. -/
structure Redirects (ps : List Placed) : Prop where
  no_pipe : ps.any (·.1 == .pipe) = false
  one : ps.countP (·.1.isRedirection) = 1
  no_background : ps.countP (·.1 == .background) = 0

theorem Redirects.exists_parted (h : Redirects ps) (hps : InPlace line ps) :
    ∃ before op place after, ps = before ++ (op, place) :: after ∧ op.isRedirection = true ∧
      Parted line before place := by
  obtain ⟨p, hp, hop⟩ := List.countP_pos_iff.1 (by rw [h.one]; exact Nat.one_pos)
  obtain ⟨before, after, rfl⟩ := List.append_of_mem hp
  obtain ⟨op, place⟩ := p
  have hpipe := h.no_pipe
  have hone := h.one
  have hback := h.no_background
  rw [List.any_append, Bool.or_eq_false_iff] at hpipe
  rw [List.countP_append, List.countP_cons, if_pos hop] at hone
  rw [List.countP_append] at hback
  have hfirst {first : Placed} (hhead : first ∈ before.head?) : first ∈ before :=
    List.mem_of_mem_head? hhead
  have hplace := hps.boundary (op, place) hp
  refine ⟨before, op, place, after, rfl, hop, ?_⟩
  exact {
    words := allWords_of_countP hpipe.1 (by omega) (by omega)
    first_le := fun first hhead =>
      (List.pairwise_append.1 hps.ordered).2.2 first (hfirst hhead) _ List.mem_cons_self
    first_boundary := fun first hhead =>
      (hps.boundary first (List.mem_append_left _ (hfirst hhead))).2
    start_boundary := hplace.1
    stop_boundary := hplace.2
    stop_le := hplace.2.le_byteLength }

/-! ## The careful planner does not stop -/

namespace Careful

theorem words_eq (h : AllWords ps) : words ps = (Plan.words ps).mapError .refused := by
  induction ps with
  | nil => rfl
  | cons p ps ih =>
    obtain ⟨t, span⟩ := p
    obtain ⟨⟨text, rfl⟩, hrest⟩ := List.forall_mem_cons.1 h
    rw [words, Plan.words, ih hrest]
    cases Plan.words ps <;> rfl

theorem command_eq (missing : ParseError) (h : AllWords ps) :
    command missing ps = (Plan.command missing ps).mapError .refused := by
  rw [command, Plan.command, words_eq h]
  cases Plan.words ps with
  | error e => rfl
  | ok ws => cases ws <;> rfl

theorem mapM_command_eq (missing : ParseError) {sts : List (List Placed)}
    (h : ∀ stage ∈ sts, AllWords stage) :
    sts.mapM (command missing) = (sts.mapM (Plan.command missing)).mapError .refused := by
  induction sts with
  | nil => rfl
  | cons stage sts ih =>
    obtain ⟨hstage, hrest⟩ := List.forall_mem_cons.1 h
    rw [List.mapM_cons, List.mapM_cons, command_eq missing hstage, ih hrest]
    cases Plan.command missing stage with
    | error e => rfl
    | ok cmd => cases sts.mapM (Plan.command missing) <;> rfl

theorem ofPipeline_eq (h : ∀ stage ∈ stages ps, AllWords stage) :
    ofPipeline ps = (Plan.ofPipeline ps).mapError .refused := by
  rw [ofPipeline, Plan.ofPipeline, mapM_command_eq _ h]
  cases (stages ps).mapM (Plan.command .emptyPipeStage) <;> rfl

theorem part_eq {start stop : ℕ} (hle : start ≤ stop) (hstart : IsBoundary line start)
    (hstop : IsBoundary line stop) : part line start stop = .ok (slice line start stop) :=
  if_pos ⟨hle, hstart, hstop⟩

theorem ofRedirection_eq (hop : op.isRedirection = true) (h : Parted line before place) :
    ofRedirection line (before ++ (op, place) :: after) =
      (Plan.ofRedirection line (before ++ (op, place) :: after)).mapError .refused := by
  have hplain : ∀ p ∈ before, (!p.1.isRedirection) = true := by
    intro p hp
    obtain ⟨text, htext⟩ := h.words p hp
    rw [htext]
    rfl
  -- only words stand in front of the operator, so it is found first
  have hindex : (before ++ (op, place) :: after).findIdx? (·.1.isRedirection) =
      some before.length := by
    have hnone : before.findIdx? (·.1.isRedirection) = none := by
      rw [List.findIdx?_eq_none_iff]
      exact fun p hp => by simpa using hplain p hp
    rw [List.findIdx?_append, hnone, List.findIdx?_cons, if_pos hop]
    simp
  have hupTo : (before ++ (op, place) :: after).take (before.length + 1) =
      before ++ [(op, place)] := by
    rw [List.take_length_add_append]
    rfl
  obtain ⟨htake, hdrop⟩ := cut_at_redirection place after hplain hop
  have htarget : part line place.stop (byteLength line) =
      .ok (slice line place.stop (byteLength line)) :=
    part_eq h.stop_le h.stop_boundary (Text.isBoundary_byteLength line)
  rw [ofRedirection, Plan.ofRedirection, hindex, htake, hdrop]
  simp only [hupTo, List.getLast?_concat, List.dropLast_concat]
  cases before with
  | nil => rfl
  | cons first more =>
    have htext : part line first.2.stop place.start = .ok (slice line first.2.stop place.start) :=
      part_eq (h.first_le first rfl) (h.first_boundary first rfl) h.start_boundary
    simp only [htext, htarget, command_eq _ h.words]
    cases Plan.command .missingCommand (first :: more) with
    | error e => rfl
    | ok cmd =>
      simp only [bind, Except.bind, Except.mapError]
      split <;> rfl

theorem ofTokens_eq (h : InPlace line ps) :
    ofTokens line ps = (Plan.ofTokens line ps).mapError .refused := by
  rw [ofTokens, Plan.ofTokens]
  split_ifs with hempty hmixed hpipe hback hred hback hmany hback hlast
  · rfl
  · rfl
  · rfl
  · have hr : ps.countP (·.1.isRedirection) = 0 := by simpa [hpipe] using hmixed
    exact ofPipeline_eq fun stage => allWords_of_mem_stages hr (by omega)
  · rfl
  · rfl
  · have hredirects : Redirects ps := ⟨Bool.eq_false_iff.2 hpipe, by omega, by omega⟩
    obtain ⟨before, op, place, after, rfl, hop, hparted⟩ := hredirects.exists_parted h
    exact ofRedirection_eq hop hparted
  · rfl
  · have hone : ps.countP (·.1 == .background) ≤ 1 ∧
        ps.getLast?.map (·.1) = some .background := by simpa using hlast
    rw [command_eq _
      (allWords_dropLast (Bool.eq_false_iff.2 hpipe) (by omega) hone.1 hone.2)]
    cases Plan.command .missingCommand ps.dropLast <;> rfl
  · rw [command_eq _ (allWords_of_countP (Bool.eq_false_iff.2 hpipe) (by omega) (by omega))]
    cases Plan.command .missingCommand ps <;> rfl

theorem parse_eq (line : String) : parse line = (Plan.parse line).mapError .refused := by
  rw [parse, Plan.parse]
  cases faults (Token.lex line) with
  | nil => exact ofTokens_eq (inPlace_placed_lex line)
  | cons fault more => rfl

end Careful

theorem parse_of_redirects {line : String} (hfaults : faults (Token.lex line) = [])
    (h : Redirects (placed (Token.lex line))) :
    parse line = ofRedirection line.toList (placed (Token.lex line)) := by
  have hne : placed (Token.lex line) ≠ [] := by
    intro hnil
    have hone := h.one
    rw [hnil] at hone
    contradiction
  rw [parse, hfaults]
  simp [ofTokens, h.no_pipe, h.one, h.no_background, hne]

/-- The planner is the careful planner: for no line is an operator taken for a word, missed where it
was counted, or a part taken between offsets that are none. When the plan of a redirection is made,
there are words in front of its operator, and they end before it begins. -/
theorem careful_parse_never_stops (line : String) :
    Careful.parse line = (parse line).mapError .refused ∧
      (faults (Token.lex line) = [] → Redirects (placed (Token.lex line)) →
        parse line = ofRedirection line.toList (placed (Token.lex line)) ∧
          ∃ before op place after, placed (Token.lex line) = before ++ (op, place) :: after ∧
            op.isRedirection = true ∧ Parted line.toList before place) :=
  ⟨Careful.parse_eq line, fun hfaults h =>
    ⟨parse_of_redirects hfaults h, h.exists_parted (inPlace_placed_lex line)⟩⟩

/-- An operator next to characters of two bytes. -/
theorem careful_parse_never_stops_wide :
    let line := "é ü>é"
    Careful.parse line = .ok (.redirected ⟨⟨"é", ["ü"]⟩, "ü", .truncate, "é"⟩) ∧
      ∃ before op place after, placed (Token.lex line) = before ++ (op, place) :: after ∧
        op.isRedirection = true ∧ Parted line.toList before place := by
  intro line
  have hplan : parse line = .ok (.redirected ⟨⟨"é", ["ü"]⟩, "ü", .truncate, "é"⟩) := by
    decide +kernel
  have hfaults : faults (Token.lex line) = [] := by decide +kernel
  have hredirects : Redirects (placed (Token.lex line)) :=
    ⟨by decide +kernel, by decide +kernel, by decide +kernel⟩
  obtain ⟨hcareful, hparted⟩ := careful_parse_never_stops line
  rw [hplan] at hcareful
  exact ⟨hcareful, (hparted hfaults hredirects).2⟩

end Plan
end LineShell
