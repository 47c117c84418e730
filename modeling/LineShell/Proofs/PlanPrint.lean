import LineShell.Proofs.PlanShape
import LineShell.Proofs.Trim

/-!
# Printing a plan

A plan is printed with every word between double quotes, whatever the word holds. Reading the
printed line gives the plan back. Only a word with a double quote cannot be printed so, and no word
of a plan that is read off a line has one.
-/
namespace LineShell

/-- A word between double quotes. -/
def Token.quote (w : String) : String :=
  "\"" ++ w ++ "\""

/-- The words of a command between double quotes, with single spaces between them. -/
def SimpleCommand.print (cmd : SimpleCommand) : String :=
  " ".intercalate (cmd.words.map Token.quote)

def RedirectMode.symbol : RedirectMode → String
  | .truncate => ">"
  | .append => ">>"
  | .readFrom => "<"

/-- The line that asks for a plan; `gap` stands around the operators. -/
def Plan.print (gap : String) : Plan → String
  | .noOp => ""
  | .simple cmd => cmd.print
  | .piped cmds => (gap ++ "|" ++ gap).intercalate (cmds.map SimpleCommand.print)
  | .redirected r => r.command.print ++ gap ++ r.mode.symbol ++ gap ++ Token.quote r.target
  | .backgrounded cmd => cmd.print ++ gap ++ "&"

def SimpleCommand.QuoteFree (cmd : SimpleCommand) : Prop :=
  ∀ w ∈ cmd.words, '"' ∉ w.toList

/-- A plan without double quotes, with no fewer than two stages in a pipeline and with a target
that is not empty. -/
def Plan.QuoteFree : Plan → Prop
  | .noOp => True
  | .simple cmd => cmd.QuoteFree
  | .piped cmds => 2 ≤ cmds.length ∧ ∀ cmd ∈ cmds, cmd.QuoteFree
  | .redirected r =>
    r.command.QuoteFree ∧ '"' ∉ r.text.toList ∧ r.target ≠ "" ∧ '"' ∉ r.target.toList
  | .backgrounded cmd => cmd.QuoteFree

instance (cmd : SimpleCommand) : Decidable cmd.QuoteFree :=
  inferInstanceAs (Decidable (∀ w ∈ cmd.words, '"' ∉ w.toList))

instance : (plan : Plan) → Decidable plan.QuoteFree
  | .noOp => .isTrue trivial
  | .simple cmd => inferInstanceAs (Decidable cmd.QuoteFree)
  | .piped cmds => inferInstanceAs (Decidable (2 ≤ cmds.length ∧ ∀ cmd ∈ cmds, cmd.QuoteFree))
  | .redirected r => inferInstanceAs (Decidable (r.command.QuoteFree ∧ '"' ∉ r.text.toList ∧
      r.target ≠ "" ∧ '"' ∉ r.target.toList))
  | .backgrounded cmd => inferInstanceAs (Decidable cmd.QuoteFree)

/-- The text of a redirection is its arguments with single spaces between them. -/
def Plan.TextIsArguments : Plan → Prop
  | .redirected r => r.text = " ".intercalate r.command.args
  | _ => True

namespace Lexeme

def quoted (gap : List Char) (w : String) : Lexeme :=
  ⟨gap, Token.enclose w.toList, .ok (.word w)⟩

def ofCommand (gap : List Char) (cmd : SimpleCommand) : List Lexeme :=
  quoted gap cmd.program :: cmd.args.map (quoted [' '])

@[simp] theorem toList_quote (w : String) : (Token.quote w).toList = Token.enclose w.toList := by
  simp [Token.quote, Token.enclose]

theorem isGap_space : IsGap [' '] := by
  simp [IsGap, Token.isSeparator]

theorem laid_quoted {gap rest : List Char} {w : String} {ls : List Lexeme} (hg : IsGap gap)
    (hw : '"' ∉ w.toList) (hs : Token.StopsWord rest) (h : Laid rest ls) :
    Laid (gap ++ Token.enclose w.toList ++ rest) (quoted gap w :: ls) := by
  have hsp : Token.Spells (.word w) (Token.enclose w.toList) := by
    have h := Token.Spells.word (by simp [Token.enclose]) (Token.isWordText_enclose hw)
    rwa [Token.unquote_enclose hw, String.ofList_toList] at h
  exact .token hg hsp hs h

theorem toList_intercalate_cons (sep w : String) (ws : List String) :
    (sep.intercalate (w :: ws)).toList = w.toList ++ ws.flatMap (sep.toList ++ ·.toList) := by
  induction ws generalizing w with
  | nil => simp
  | cons v ws ih => simp [String.intercalate_cons_cons, ih]

/-- Single spaces stand between the words of a printed command. -/
theorem toList_print (cmd : SimpleCommand) :
    cmd.print.toList =
      Token.enclose cmd.program.toList ++ cmd.args.flatMap (' ' :: Token.enclose ·.toList) := by
  rw [SimpleCommand.print, SimpleCommand.words, List.map_cons, toList_intercalate_cons]
  simp [List.flatMap_map]

theorem stopsWord_flatMap_quoted {rest : List Char} (ws : List String)
    (hs : Token.StopsWord rest) :
    Token.StopsWord (ws.flatMap (' ' :: Token.enclose ·.toList) ++ rest) := by
  cases ws with
  | nil => exact hs
  | cons w ws => simp [Token.isBare, Token.isSeparator]

theorem trimmed_flatMap_quoted (w : String) (ws : List String) :
    Text.Trimmed (Token.enclose w.toList ++ ws.flatMap (' ' :: Token.enclose ·.toList)) := by
  induction ws generalizing w with
  | nil => simpa using Token.trimmed_enclose w.toList
  | cons v ws ih =>
    have h := (Token.trimmed_enclose w.toList).append (by simp [Token.enclose]) (ih v)
      (by simp [Token.enclose]) [' ']
    simpa using h

theorem unquote_flatMap_quoted {ws : List String} (hq : ∀ w ∈ ws, '"' ∉ w.toList) :
    Token.unquote (ws.flatMap (' ' :: Token.enclose ·.toList)) = ws.flatMap (' ' :: ·.toList) := by
  induction ws with
  | nil => rfl
  | cons w ws ih =>
    have hw := Token.unquote_enclose (hq w (by simp))
    have hws := ih fun v hv => hq v (List.mem_cons_of_mem w hv)
    rw [List.flatMap_cons, List.flatMap_cons, Token.unquote_append, hws,
      Token.unquote_cons_of_ne (by decide), hw]

/-- Printed arguments are made of their words. -/
theorem laid_args {rest : List Char} {args : List String} {ls : List Lexeme}
    (hq : ∀ w ∈ args, '"' ∉ w.toList) (hs : Token.StopsWord rest) (h : Laid rest ls) :
    Laid (args.flatMap (' ' :: Token.enclose ·.toList) ++ rest)
      (args.map (quoted [' ']) ++ ls) := by
  induction args with
  | nil => exact h
  | cons w ws ih =>
    have hws := ih fun v hv => hq v (List.mem_cons_of_mem w hv)
    have hw := laid_quoted isGap_space (hq w (by simp)) (stopsWord_flatMap_quoted ws hs) hws
    simpa using hw

/-- A printed command is made of its words. -/
theorem laid_print {gap rest : List Char} {cmd : SimpleCommand} {ls : List Lexeme} (hg : IsGap gap)
    (hq : cmd.QuoteFree) (hs : Token.StopsWord rest) (h : Laid rest ls) :
    Laid (gap ++ cmd.print.toList ++ rest) (ofCommand gap cmd ++ ls) := by
  have hargs := laid_args (fun w hw => hq w (List.mem_cons_of_mem cmd.program hw)) hs h
  have hprogram := laid_quoted hg (hq cmd.program (by simp [SimpleCommand.words]))
    (stopsWord_flatMap_quoted cmd.args hs) hargs
  rw [toList_print]
  simpa [ofCommand] using hprogram

@[simp] theorem tokens_map_quoted (gap : List Char) (ws : List String) :
    tokens (ws.map (quoted gap)) = ws.map .word := by
  induction ws with
  | nil => rfl
  | cons w ws ih => simp [quoted, ← ih]

@[simp] theorem tokens_ofCommand (gap : List Char) (cmd : SimpleCommand) :
    tokens (ofCommand gap cmd) = cmd.words.map .word := by
  simp [ofCommand, quoted, SimpleCommand.words]

@[simp] theorem noFault_map_quoted (gap : List Char) (ws : List String) :
    NoFault (ws.map (quoted gap)) := by
  induction ws with
  | nil => exact noFault_nil
  | cons w ws ih => simpa [quoted] using ih

@[simp] theorem noFault_ofCommand (gap : List Char) (cmd : SimpleCommand) :
    NoFault (ofCommand gap cmd) := by
  rw [ofCommand, quoted, noFault_cons_ok]
  exact noFault_map_quoted [' '] cmd.args

/-- The words of a line have no quotes. -/
theorem Laid.quote_notMem {s : List Char} {ls : List Lexeme} (h : Laid s ls) {w : String}
    (hw : .word w ∈ tokens ls) : '"' ∉ w.toList := by
  induction h with
  | done => simp at hw
  | @token gap raw rest t ls _ hsp _ _ ih =>
    obtain rfl | hmem := List.mem_cons.1 hw
    · cases hsp with
      | word => rw [String.toList_ofList]; exact Token.quote_notMem_unquote _
    · exact ih hmem
  | fault => simp [tokens, Except.toOption] at hw

theorem IsGap.allBlank {s : List Char} (h : IsGap s) : Text.AllBlank s :=
  fun c hc => Token.isBlank_of_isSeparator (h c hc)

theorem IsGap.stopsWord_append {s t : List Char} (h : IsGap s) (ht : Token.StopsWord t) :
    Token.StopsWord (s ++ t) := by
  by_cases hs : s = []
  · simpa [hs] using ht
  · exact Token.stopsWord_of_isSeparator hs h

end Lexeme

def RedirectMode.token : RedirectMode → Token
  | .truncate => .write
  | .append => .append
  | .readFrom => .read

namespace RedirectMode

@[simp] theorem redirectMode_token (mode : RedirectMode) : Plan.redirectMode mode.token = mode := by
  cases mode <;> rfl

theorem isRedirection_token (mode : RedirectMode) : mode.token.isRedirection = true := by
  cases mode <;> rfl

theorem spells_symbol (mode : RedirectMode) : mode.token.Spells mode.symbol.toList := by
  cases mode with
  | truncate => exact .write
  | append => exact .append
  | readFrom => exact .read

theorem stopsWord_symbol_append (mode : RedirectMode) (rest : List Char) :
    Token.StopsWord (mode.symbol.toList ++ rest) := by
  cases mode <;> simp [symbol, Token.isBare, Token.isOperator]

theorem stops_token {rest : List Char} (mode : RedirectMode) (h : rest.head? ≠ some '>') :
    mode.token.Stops rest := by
  cases mode with
  | truncate => exact h
  | _ => trivial

end RedirectMode

namespace Plan
open Lexeme (Laid IsGap NoFault tokens ofCommand quoted flatten)

/-- The arguments of a printed command without their quotes. -/
theorem bareText_args {gap : List Char} (args : List String) (hg : IsGap gap)
    (hq : ∀ w ∈ args, '"' ∉ w.toList) :
    bareText (flatten (args.map (quoted [' '])) ++ gap) = " ".intercalate args := by
  have hflat : flatten (args.map (quoted [' '])) =
      args.flatMap (' ' :: Token.enclose ·.toList) := by
    simp [flatten, List.flatMap_map, Lexeme.written, quoted]
  cases args with
  | nil =>
    have hempty : String.ofList (Token.unquote []) = " ".intercalate [] := by decide
    have h := bareText_eq Text.trimmed_nil Text.allBlank_nil hg.allBlank
    rw [List.append_nil] at h
    rw [hflat, List.flatMap_nil, h, hempty]
  | cons w ws =>
    have h := bareText_eq (Lexeme.trimmed_flatMap_quoted w ws)
      Lexeme.isGap_space.allBlank hg.allBlank
    have hws : ∀ v ∈ ws, '"' ∉ v.toList := fun v hv => hq v (List.mem_cons_of_mem w hv)
    rw [hflat, List.flatMap_cons]
    refine h.trans ?_
    apply String.toList_injective
    rw [String.toList_ofList, Lexeme.toList_intercalate_cons, Token.unquote_append,
      Token.unquote_enclose (hq w (by simp)), Lexeme.unquote_flatMap_quoted hws]
    rfl

theorem parse_print_simple {cmd : SimpleCommand} (hq : cmd.QuoteFree) :
    parse cmd.print = .ok (.simple cmd) := by
  have h := Lexeme.laid_print Lexeme.isGap_nil hq Token.stopsWord_nil
    (.done Lexeme.isGap_nil)
  rw [List.nil_append, List.append_nil, List.append_nil] at h
  exact parse_of_reads h (Lexeme.noFault_ofCommand _ _) (.simple (by simp))

theorem parse_print_backgrounded {gap : String} {cmd : SimpleCommand} (hg : IsGap gap.toList)
    (hq : cmd.QuoteFree) : parse (cmd.print ++ gap ++ "&") = .ok (.backgrounded cmd) := by
  have hback : Laid (gap.toList ++ ['&'] ++ []) [⟨gap.toList, ['&'], .ok .background⟩] :=
    .token hg .background trivial (.done Lexeme.isGap_nil)
  have hstop : Token.StopsWord (gap.toList ++ ['&'] ++ []) := by
    rw [List.append_assoc]
    exact hg.stopsWord_append (by simp [Token.isBare, Token.isOperator])
  have h := Lexeme.laid_print Lexeme.isGap_nil hq hstop hback
  have hline : (cmd.print ++ gap ++ "&").toList =
      [] ++ cmd.print.toList ++ (gap.toList ++ ['&'] ++ []) := by simp
  rw [← hline] at h
  exact parse_of_reads h (by simp) (.backgrounded (by simp))

/-- The lexemes of printed stages, each with a pipe in front. -/
def stageLexemes (gap : List Char) (cmds : List SimpleCommand) : List Lexeme :=
  cmds.flatMap fun cmd => ⟨gap, ['|'], .ok .pipe⟩ :: ofCommand gap cmd

theorem noFault_stageLexemes (gap : List Char) (cmds : List SimpleCommand) :
    NoFault (stageLexemes gap cmds) := by
  induction cmds with
  | nil => exact Lexeme.noFault_nil
  | cons cmd cmds ih => simpa [stageLexemes] using ih

/-- The printed stages after the first are made of their lexemes. -/
theorem laid_print_stages {gap : List Char} (hg : IsGap gap) (cmds : List SimpleCommand)
    (hq : ∀ cmd ∈ cmds, cmd.QuoteFree) :
    Laid (cmds.flatMap fun cmd => gap ++ ['|'] ++ (gap ++ cmd.print.toList))
        (stageLexemes gap cmds) ∧
      Token.StopsWord (cmds.flatMap fun cmd => gap ++ ['|'] ++ (gap ++ cmd.print.toList)) := by
  induction cmds with
  | nil => exact ⟨.done Lexeme.isGap_nil, Token.stopsWord_nil⟩
  | cons cmd cmds ih =>
    obtain ⟨hrest, hstop⟩ := ih fun c hc => hq c (List.mem_cons_of_mem cmd hc)
    have hcmd := Lexeme.laid_print hg (hq cmd (by simp)) hstop hrest
    have hpipe := Laid.token hg .pipe trivial hcmd
    constructor
    · simpa [stageLexemes] using hpipe
    · rw [List.flatMap_cons, List.append_assoc, List.append_assoc]
      exact hg.stopsWord_append (by simp [Token.isBare, Token.isOperator])

theorem toList_intercalate_print (gap : String) (cmd : SimpleCommand) (cmds : List SimpleCommand) :
    ((gap ++ "|" ++ gap).intercalate ((cmd :: cmds).map SimpleCommand.print)).toList =
      cmd.print.toList ++
        cmds.flatMap fun cmd => gap.toList ++ ['|'] ++ (gap.toList ++ cmd.print.toList) := by
  rw [List.map_cons, Lexeme.toList_intercalate_cons]
  simp [List.flatMap_map]

theorem splitOn_tokens_stages (lead gap : List Char) (cmd : SimpleCommand)
    (cmds : List SimpleCommand) :
    (tokens (ofCommand lead cmd ++ stageLexemes gap cmds)).splitOn .pipe =
      (cmd :: cmds).map fun cmd => cmd.words.map .word := by
  induction cmds generalizing lead cmd with
  | nil => simpa [stageLexemes] using List.splitOn_eq_singleton (pipe_notMem_words cmd.words)
  | cons next cmds ih =>
    have h := ih gap next
    have hcut := List.splitOn_append_cons_self_of_not_mem (pipe_notMem_words cmd.words)
      (tokens (ofCommand gap next ++ stageLexemes gap cmds))
    rw [h] at hcut
    simpa [stageLexemes] using hcut

theorem parse_print_piped {gap : String} {cmds : List SimpleCommand} (hg : IsGap gap.toList)
    (hlen : 2 ≤ cmds.length) (hq : ∀ cmd ∈ cmds, cmd.QuoteFree) :
    parse ((gap ++ "|" ++ gap).intercalate (cmds.map SimpleCommand.print)) = .ok (.piped cmds) := by
  cases cmds with
  | nil => simp at hlen
  | cons cmd cmds =>
    obtain ⟨hrest, hstop⟩ := laid_print_stages hg cmds
      fun c hc => hq c (List.mem_cons_of_mem cmd hc)
    have h := Lexeme.laid_print Lexeme.isGap_nil (hq cmd (by simp)) hstop hrest
    rw [List.nil_append, ← toList_intercalate_print] at h
    refine parse_of_reads h ?_ (.piped hlen (splitOn_tokens_stages _ _ _ _))
    rw [Lexeme.noFault_append]
    exact ⟨Lexeme.noFault_ofCommand _ _, noFault_stageLexemes _ _⟩

/-- The plan of a redirection whose arguments are printed: its text is the arguments, and its
target is whatever is written after the operator. -/
theorem parse_redirection {line : String} {raw gap rest : List Char} {w : String}
    {args vs : List String} {mode : RedirectMode} {ls : List Lexeme}
    (hw : (Token.word w).Spells raw) (hq : ∀ w ∈ args, '"' ∉ w.toList) (hg : IsGap gap)
    (hs : mode.token.Stops rest) (h : Laid rest ls) (hf : NoFault ls)
    (hv : tokens ls = vs.map .word) (hne : bareText rest ≠ "")
    (hline : line.toList = raw ++ args.flatMap (' ' :: Token.enclose ·.toList) ++
      (gap ++ mode.symbol.toList ++ rest)) :
    parse line = .ok (.redirected ⟨⟨w, args⟩, " ".intercalate args, mode, bareText rest⟩) := by
  have hop := Laid.token hg mode.spells_symbol hs h
  have hstop : Token.StopsWord (gap ++ mode.symbol.toList ++ rest) := by
    rw [List.append_assoc]
    exact hg.stopsWord_append (mode.stopsWord_symbol_append rest)
  have hargs := Lexeme.laid_args hq hstop hop
  have hlaid := Laid.token Lexeme.isGap_nil hw
    (Lexeme.stopsWord_flatMap_quoted args hstop) hargs
  rw [List.nil_append, ← List.append_assoc raw, ← hline] at hlaid
  have hsplit : line.toList = [] ++ raw ++ (flatten (args.map (quoted [' '])) ++ gap) ++
      mode.symbol.toList ++ rest := by
    rw [hline]
    simp [flatten, List.flatMap_map, Lexeme.written, quoted]
  have hreads := Reads.redirected (w := w) mode.isRedirection_token
    (Lexeme.tokens_map_quoted [' '] args) hv hsplit hne
  rw [bareText_args args hg hq, RedirectMode.redirectMode_token] at hreads
  exact parse_of_reads hlaid (by simpa using hf) hreads

/-- Whatever the text of a redirection is, its arguments are printed. -/
theorem parse_print_redirected {gap : String} {r : Redirection} (hg : IsGap gap.toList)
    (hq : (Plan.redirected r).QuoteFree) :
    parse ((Plan.redirected r).print gap) =
      .ok (.redirected { r with text := " ".intercalate r.command.args }) := by
  obtain ⟨⟨program, args⟩, text, mode, target⟩ := r
  obtain ⟨hcmd, -, hne, htarget⟩ := hq
  have hprogram : '"' ∉ program.toList := hcmd program (by simp [SimpleCommand.words])
  have hspell : (Token.word program).Spells (Token.enclose program.toList) := by
    have h := Token.Spells.word (by simp [Token.enclose]) (Token.isWordText_enclose hprogram)
    rwa [Token.unquote_enclose hprogram, String.ofList_toList] at h
  have hrest := Lexeme.laid_quoted hg htarget Token.stopsWord_nil (.done Lexeme.isGap_nil)
  have hbare : bareText (gap.toList ++ Token.enclose target.toList ++ []) = target := by
    rw [bareText_eq (Token.trimmed_enclose _) hg.allBlank Text.allBlank_nil,
      Token.unquote_enclose htarget, String.ofList_toList]
  have hhead : (gap.toList ++ Token.enclose target.toList ++ []).head? ≠ some '>' := by
    cases hgap : gap.toList with
    | nil => simp [Token.enclose]
    | cons c cs =>
      have hc : Token.isSeparator c = true := hg c (by simp [hgap])
      have hne : c ≠ '>' := by rintro rfl; exact absurd hc (by decide)
      simpa using hne
  have hline : ((Plan.redirected ⟨⟨program, args⟩, text, mode, target⟩).print gap).toList =
      Token.enclose program.toList ++ args.flatMap (' ' :: Token.enclose ·.toList) ++
        (gap.toList ++ mode.symbol.toList ++
          (gap.toList ++ Token.enclose target.toList ++ [])) := by
    simp [Plan.print, Lexeme.toList_print]
  have htokens : tokens [quoted gap.toList target] = [target].map .word := rfl
  have h := parse_redirection hspell (fun w hw => hcmd w (List.mem_cons_of_mem program hw)) hg
    (mode.stops_token hhead) hrest (by simp [quoted]) htokens (by rwa [hbare]) hline
  rwa [hbare] at h

/-- Every plan that is read off a line could be printed, but for the text of a redirection. -/
theorem quoteFree_of_parse {line : String} {plan : Plan} (h : parse line = .ok plan) :
    plan.QuoteFree := by
  have hlaid := Lexeme.laid_ofChars line.toList
  have hclean {w : String} (hw : .word w ∈ tokens (Lexeme.ofChars line.toList)) : '"' ∉ w.toList :=
    hlaid.quote_notMem hw
  obtain ⟨-, hreads⟩ := reads_of_parse hlaid h
  generalize Lexeme.ofChars line.toList = ls at hreads hclean
  cases hreads with
  | noOp => trivial
  | simple ht =>
    intro w hw
    exact hclean (ht ▸ List.mem_map_of_mem hw)
  | @piped _ cmds hlen ht =>
    refine ⟨hlen, fun cmd hcmd w hw => hclean ?_⟩
    have hcut : [Token.pipe].intercalate ((tokens ls).splitOn .pipe) = tokens ls :=
      List.intercalate_splitOn Token.pipe
    rw [← hcut, ht]
    exact mem_intercalate_of_mem _ (List.mem_map_of_mem hcmd) (List.mem_map_of_mem hw)
  | @redirected _ _ _ _ _ w ws _ _ more _ _ hmore _ _ hne =>
    refine ⟨fun v hv => hclean ?_, quote_notMem_bareText _, hne, quote_notMem_bareText _⟩
    obtain rfl | hv := List.mem_cons.1 hv
    · simp
    · have hmem : Token.word v ∈ tokens more := hmore ▸ List.mem_map_of_mem hv
      simp [hmem]
  | backgrounded ht =>
    intro w hw
    exact hclean (ht ▸ List.mem_append_left _ (List.mem_map_of_mem hw))

/-- Reading a printed plan gives the plan back, whatever its words hold, but for double quotes and
for a text of a redirection that is not its arguments. Every plan that is read off a line is without
double quotes, and can so be printed unless it is a redirection. -/
theorem parse_print_iff_quoteFree {gap : String} (hg : IsGap gap.toList) :
    (∀ plan : Plan, parse (plan.print gap) = .ok plan ↔ plan.QuoteFree ∧ plan.TextIsArguments) ∧
      (∀ (line : String) (plan : Plan), parse line = .ok plan → plan.QuoteFree) ∧
      ∀ (line : String) (plan : Plan), parse line = .ok plan → (∀ r, plan ≠ .redirected r) →
        parse (plan.print gap) = .ok plan := by
  have hprint : ∀ plan : Plan, plan.QuoteFree → plan.TextIsArguments →
      parse (plan.print gap) = .ok plan := by
    intro plan hq ht
    cases plan with
    | noOp => exact parse_of_reads (.done Lexeme.isGap_nil) Lexeme.noFault_nil (.noOp rfl)
    | simple cmd => exact parse_print_simple hq
    | piped cmds => exact parse_print_piped hg hq.1 hq.2
    | redirected r =>
      rw [parse_print_redirected hg hq, ← show r.text = " ".intercalate r.command.args from ht]
    | backgrounded cmd => exact parse_print_backgrounded hg hq
  have htext : ∀ plan : Plan, plan.QuoteFree → parse (plan.print gap) = .ok plan →
      plan.TextIsArguments := by
    intro plan hq h
    cases plan with
    | redirected r =>
      rw [parse_print_redirected hg hq, Except.ok.injEq, Plan.redirected.injEq] at h
      exact (congrArg Redirection.text h).symm
    | _ => trivial
  refine ⟨fun plan => ⟨fun h => ⟨quoteFree_of_parse h, htext plan (quoteFree_of_parse h) h⟩,
    fun h => hprint plan h.1 h.2⟩, fun line plan h => quoteFree_of_parse h, ?_⟩
  intro line plan h hr
  refine hprint plan (quoteFree_of_parse h) ?_
  cases plan with
  | redirected r => exact absurd rfl (hr r)
  | _ => trivial

/-- Operators, blanks and nothing at all as words of a pipeline and of a redirection, and a line
that is printed otherwise than it was written. -/
theorem parse_print_operator_words :
    let stages : Plan := .piped [⟨"a|b", ["", ">> &"]⟩, ⟨"<", ["\n"]⟩]
    let stored : Plan := .redirected ⟨⟨"echo", ["", " x"]⟩, "  x", .append, "& f"⟩
    parse (stages.print " ") = .ok stages ∧ parse (stored.print " ") = .ok stored ∧
      parse "ls  -l|\"a b\"c" = .ok (.piped [⟨"ls", ["-l"]⟩, ⟨"a bc", []⟩]) ∧
      parse ((Plan.piped [⟨"ls", ["-l"]⟩, ⟨"a bc", []⟩]).print " ") =
        .ok (.piped [⟨"ls", ["-l"]⟩, ⟨"a bc", []⟩]) := by
  intro stages stored
  have hg : IsGap " ".toList := Lexeme.isGap_space
  obtain ⟨hprint, -, hreprint⟩ := parse_print_iff_quoteFree hg
  have hparse : parse "ls  -l|\"a b\"c" = .ok (.piped [⟨"ls", ["-l"]⟩, ⟨"a bc", []⟩]) := by
    decide +kernel
  have hstages : stages.QuoteFree := by decide
  have hstored : stored.QuoteFree := by decide
  have htext : "  x" = " ".intercalate ["", " x"] := by decide
  refine ⟨(hprint stages).2 ⟨hstages, trivial⟩, (hprint stored).2 ⟨hstored, htext⟩, hparse, ?_⟩
  exact hreprint _ _ hparse (by simp)

end Plan
end LineShell
