import LineShell.Command.Requote
import Mathlib.Data.List.Basic
import Mathlib.Tactic.Common

/-!
# Words as a POSIX shell reads them

A POSIX shell cuts a line into words at blanks that are not quoted. Single quotes quote all that is
between them. Between double quotes a backslash quotes a dollar sign, a backquote, a double quote
and a backslash, and removes a line break; a dollar sign and a backquote that are not quoted this
way start an expansion there, too. Elsewhere a backslash quotes any character.

A requoted command is read as exactly the words that it has, and the shell does nothing else to
them: no character that means something to the shell is left without quotes.
-/
namespace LineShell.ShellWords
open Requote

/-- A character of a word, and whether it is quoted. -/
structure Mark where
  char : Char
  quoted : Bool
  deriving Repr, DecidableEq

/-- A word as it was read. -/
abbrev Word := List Mark

def Word.text (word : Word) : String :=
  String.ofList (word.map Mark.char)

/-- Where the reader stands. Between quotes, a word has begun. -/
inductive Reader where
  /-- Outside of quotes, with the word that has begun, if there is one. -/
  | outside (word : Option Word)
  | single (word : Word)
  | double (word : Word)

def isBlank (c : Char) : Bool :=
  c == ' ' || c == '\t'

/-- The characters that start an expansion between double quotes. -/
def isExpansion (c : Char) : Bool :=
  c == '$' || c == '\x60'

/-- The characters that a backslash quotes between double quotes. -/
def isEscapable (c : Char) : Bool :=
  isExpansion c || c == '"' || c == '\\'

/-- The words of a line, read from where a reader stands. An open quote, or a backslash with nothing
after it, is an error. -/
def read : Reader → List Char → Option (List Word)
  | .outside word, [] => some word.toList
  | .single _, [] | .double _, [] => none
  | .outside word, c :: cs =>
    if c = '\'' then read (.single (word.getD [])) cs
    else if c = '"' then read (.double (word.getD [])) cs
    else if c = '\\' then
      match cs with
      | [] => none
      | d :: ds =>
        if d = '\n' then read (.outside word) ds
        else read (.outside (some (word.getD [] ++ [⟨d, true⟩]))) ds
    else if isBlank c then (read (.outside none) cs).map (word.toList ++ ·)
    else read (.outside (some (word.getD [] ++ [⟨c, false⟩]))) cs
  | .single word, c :: cs =>
    if c = '\'' then read (.outside (some word)) cs
    else read (.single (word ++ [⟨c, true⟩])) cs
  | .double word, c :: cs =>
    if c = '"' then read (.outside (some word)) cs
    else if c = '\\' then
      match cs with
      | [] => none
      | d :: ds =>
        if d = '\n' then read (.double word) ds
        else if isEscapable d then read (.double (word ++ [⟨d, true⟩])) ds
        else read (.double (word ++ [⟨'\\', true⟩, ⟨d, true⟩])) ds
    else read (.double (word ++ [⟨c, !isExpansion c⟩])) cs

/-- The characters that mean something to a shell where they are not quoted: operators, quotes and
blanks, expansions, patterns, and what starts a comment, a home directory or an assignment. -/
def specials : List Char :=
  ['|', '&', ';', '<', '>', '(', ')', '\n', '\\', '"', '\'', ' ', '\t', '$', '\x60', '*', '?', '[',
    '#', '~', '=', '%', '!', '{', '}', '^', ',']

/-- A word in which nothing is left for a shell to do. -/
def Word.Inert (word : Word) : Prop :=
  ∀ mark ∈ word, mark.char ∈ specials → mark.quoted = true

/-! ## Chunks -/

/-- A chunk that can be written in a style. Between double quotes backslashes make room for
everything. -/
def CanWrite (style : Style) (chunk : List Char) : Prop :=
  match style with
  | .unquoted => ∀ c ∈ chunk, Style.allows c .unquoted = true
  | .single => '\'' ∉ chunk
  | .double => True

/-- A chunk as it is read: all of it is quoted, or nothing. -/
def marks (style : Style) (chunk : List Char) : Word :=
  chunk.map (⟨·, style != .unquoted⟩)

/-- The styles that remain after a run allow all of it, and none of them is lost. -/
theorem extend_styles (styles : List Style) (cs : List Char) :
    (extend styles cs).2.1 =
      styles.filter fun style => (extend styles cs).1.all (Style.allows · style) := by
  induction cs generalizing styles with
  | nil => simp [extend]
  | cons c cs ih =>
    rw [extend]
    cases h : styles.filter (Style.allows c) with
    | nil => simp
    | cons s ss =>
      dsimp only
      rw [ih, ← h, List.filter_filter]
      simp [Bool.and_comm]

theorem extend_styles_ne_nil {styles : List Style} (h : styles ≠ []) (cs : List Char) :
    (extend styles cs).2.1 ≠ [] := by
  induction cs generalizing styles with
  | nil => exact h
  | cons c cs ih =>
    rw [extend]
    cases hs : styles.filter (Style.allows c) with
    | nil => exact h
    | cons s ss => exact ih (List.cons_ne_nil s ss)

/-- Every character can be written. -/
theorem afterFirst_ne_nil (c : Char) : Style.afterFirst c ≠ [] := by
  by_cases hcaret : c = '^'
  · simp [Style.afterFirst, hcaret]
  rw [Style.afterFirst, if_neg hcaret]
  -- what single quotes do not allow, double quotes do
  by_cases hsingle : Style.allows c .single = true
  · exact List.ne_nil_of_mem (List.mem_filter.2 ⟨by simp, hsingle⟩)
  · have hc : c = '\'' ∨ c = '\\' := by
      simpa [Style.allows, hcaret, or_iff_not_imp_left] using hsingle
    have hdouble : Style.allows c .double = true := by
      rcases hc with rfl | rfl <;> decide
    exact List.ne_nil_of_mem (List.mem_filter.2 ⟨by simp, hdouble⟩)

/-- The first of the styles that allows all of a chunk. -/
def preferred? (chunk : List Char) : Option Style :=
  [Style.unquoted, .single, .double].find? fun style => chunk.all (Style.allows · style)

/-- A style that allows all of a chunk can write it. -/
theorem canWrite_of_allows {style : Style} {chunk : List Char}
    (h : ∀ c ∈ chunk, style.allows c = true) : CanWrite style chunk := by
  cases style with
  | unquoted => exact h
  | single =>
    intro hquote
    exact absurd (h _ hquote) (by decide)
  | double => trivial

structure IsChunk (style : Style) (chunk : List Char) : Prop where
  ne_nil : chunk ≠ []
  canWrite : CanWrite style chunk
  /-- The style is the first that allows all of the chunk; only a caret may stand before what single
  quotes allow. -/
  preferred : preferred? chunk = some style ∨
    style = .single ∧ ∃ rest, chunk = '^' :: rest ∧ ∀ c ∈ rest, Style.allows c .single = true

/-- The chunk at the front of a word. -/
theorem isChunk_extend (c : Char) (cs : List Char) :
    IsChunk ((extend (Style.afterFirst c) cs).2.1.headD .double)
      (c :: (extend (Style.afterFirst c) cs).1) := by
  have hleft := extend_styles (Style.afterFirst c) cs
  have hne := extend_styles_ne_nil (afterFirst_ne_nil c) cs
  generalize (extend (Style.afterFirst c) cs).2.1 = left at hleft hne ⊢
  generalize (extend (Style.afterFirst c) cs).1 = run at hleft ⊢
  obtain ⟨style, others, rfl⟩ := List.exists_cons_of_ne_nil hne
  rw [List.headD_cons]
  have hmem : style ∈ Style.afterFirst c ∧ ∀ d ∈ run, style.allows d = true := by
    have h : style ∈ style :: others := List.mem_cons_self
    rw [hleft] at h
    simpa using h
  by_cases hcaret : c = '^'
  · subst hcaret
    obtain rfl : style = .single := by simpa [Style.afterFirst] using hmem.1
    refine ⟨List.cons_ne_nil _ _, ?_, .inr ⟨rfl, run, rfl, hmem.2⟩⟩
    have hrun : CanWrite .single run := canWrite_of_allows hmem.2
    simpa [CanWrite] using hrun
  · have hfirst : Style.afterFirst c = [.unquoted, .single, .double].filter (Style.allows c) := by
      rw [Style.afterFirst, if_neg hcaret]
    have hall : ∀ d ∈ c :: run, style.allows d = true := by
      rw [List.forall_mem_cons]
      rw [hfirst] at hmem
      exact ⟨(List.mem_filter.1 hmem.1).2, hmem.2⟩
    refine ⟨List.cons_ne_nil _ _, canWrite_of_allows hall, .inl ?_⟩
    rw [hfirst, List.filter_filter] at hleft
    have hhead := congrArg List.head? hleft
    rw [List.head?_cons, List.head?_filter] at hhead
    simpa [preferred?, Bool.and_comm] using hhead.symm

theorem flatMap_chunks (word : List Char) : (chunks word).flatMap (·.2) = word := by
  induction word using chunks.induct with
  | case1 => simp [chunks]
  | case2 c cs next ih => rw [chunks, List.flatMap_cons, ih, List.cons_append, extend_append]

theorem isChunk_of_mem_chunks {word : List Char} {p : Style × List Char} (h : p ∈ chunks word) :
    IsChunk p.1 p.2 := by
  induction word using chunks.induct with
  | case1 => simp [chunks] at h
  | case2 c cs next ih =>
    rw [chunks, List.mem_cons] at h
    rcases h with rfl | h
    · exact isChunk_extend c cs
    · exact ih h

/-! ## Reading a character -/

section
variable {word : Option Word} {begun : Word} {chunk rest : List Char} {c : Char}

theorem read_outside_cons : read (.outside word) (c :: rest) =
    if c = '\'' then read (.single (word.getD [])) rest
    else if c = '"' then read (.double (word.getD [])) rest
    else if c = '\\' then
      match rest with
      | [] => none
      | d :: ds =>
        if d = '\n' then read (.outside word) ds
        else read (.outside (some (word.getD [] ++ [⟨d, true⟩]))) ds
    else if isBlank c then (read (.outside none) rest).map (word.toList ++ ·)
    else read (.outside (some (word.getD [] ++ [⟨c, false⟩]))) rest := by
  rw [read.eq_def]

theorem read_single_cons : read (.single begun) (c :: rest) =
    if c = '\'' then read (.outside (some begun)) rest
    else read (.single (begun ++ [⟨c, true⟩])) rest := by
  rw [read.eq_def]

theorem read_double_cons : read (.double begun) (c :: rest) =
    if c = '"' then read (.outside (some begun)) rest
    else if c = '\\' then
      match rest with
      | [] => none
      | d :: ds =>
        if d = '\n' then read (.double begun) ds
        else if isEscapable d then read (.double (begun ++ [⟨d, true⟩])) ds
        else read (.double (begun ++ [⟨'\\', true⟩, ⟨d, true⟩])) ds
    else read (.double (begun ++ [⟨c, !isExpansion c⟩])) rest := by
  rw [read.eq_def]

theorem read_outside_nil : read (.outside word) [] = some word.toList :=
  rfl

theorem read_open_single :
    read (.outside word) ('\'' :: rest) = read (.single (word.getD [])) rest :=
  read_outside_cons

theorem read_open_double :
    read (.outside word) ('"' :: rest) = read (.double (word.getD [])) rest :=
  read_outside_cons

theorem read_space :
    read (.outside word) (' ' :: rest) = (read (.outside none) rest).map (word.toList ++ ·) :=
  read_outside_cons

theorem read_plain (h : c ∉ specials) :
    read (.outside word) (c :: rest) =
      read (.outside (some (word.getD [] ++ [⟨c, false⟩]))) rest := by
  have hne {d : Char} (hd : d ∈ specials) : c ≠ d := fun hcd => h (hcd ▸ hd)
  have hblank : isBlank c = false := by
    simp [isBlank, hne (d := ' ') (by decide), hne (d := '\t') (by decide)]
  rw [read_outside_cons]
  simp [hne (d := '\'') (by decide), hne (d := '"') (by decide), hne (d := '\\') (by decide),
    hblank]

theorem read_close_single :
    read (.single begun) ('\'' :: rest) = read (.outside (some begun)) rest :=
  read_single_cons

theorem read_close_double :
    read (.double begun) ('"' :: rest) = read (.outside (some begun)) rest :=
  read_double_cons

theorem read_escaped (h : isEscapable c = true) :
    read (.double begun) ('\\' :: c :: rest) = read (.double (begun ++ [⟨c, true⟩])) rest := by
  have hfeed : c ≠ '\n' := by
    rintro rfl
    exact absurd h (by decide)
  rw [read_double_cons]
  simp [hfeed, h]

theorem read_inside (h : isEscapable c = false) :
    read (.double begun) (c :: rest) = read (.double (begun ++ [⟨c, true⟩])) rest := by
  have hne {d : Char} (hd : isEscapable d = true) : c ≠ d := by
    rintro rfl
    rw [hd] at h
    contradiction
  have hexpansion : isExpansion c = false := by
    simp only [isEscapable, Bool.or_eq_false_iff] at h
    exact h.1.1
  rw [read_double_cons]
  simp [hne (d := '"') (by decide), hne (d := '\\') (by decide), hexpansion]

/-! ## Reading a chunk -/

theorem notMem_specials_of_allows (h : Style.allows c .unquoted = true) : c ∉ specials := by
  have hall : (specials.all fun d => !Style.allows d .unquoted) = true := by decide
  intro hc
  have hnot := List.all_eq_true.1 hall c hc
  rw [h] at hnot
  contradiction

theorem read_unquoted (h : CanWrite .unquoted chunk) :
    read (.outside (some begun)) (chunk ++ rest) =
      read (.outside (some (begun ++ marks .unquoted chunk))) rest := by
  induction chunk generalizing begun with
  | nil => simp [marks]
  | cons c cs ih =>
    obtain ⟨hc, hcs⟩ := List.forall_mem_cons.1 h
    rw [List.cons_append, read_plain (notMem_specials_of_allows hc), Option.getD_some, ih hcs]
    simp [marks]

theorem read_single (h : '\'' ∉ chunk) :
    read (.single begun) (chunk ++ '\'' :: rest) =
      read (.outside (some (begun ++ marks .single chunk))) rest := by
  induction chunk generalizing begun with
  | nil => rw [List.nil_append, read_close_single, marks, List.map_nil, List.append_nil]
  | cons c cs ih =>
    rw [List.mem_cons, not_or] at h
    have hmarks : begun ++ [⟨c, true⟩] ++ marks .single cs = begun ++ marks .single (c :: cs) := by
      simp [marks]
    rw [List.cons_append, read_single_cons, if_neg (Ne.symm h.1), ih h.2, hmarks]

theorem isActive_eq_isEscapable (c : Char) : Style.isActive c = isEscapable c := by
  simp [Style.isActive, isEscapable, isExpansion, Bool.or_assoc]

theorem read_double (chunk rest : List Char) :
    read (.double begun)
        (chunk.flatMap (fun c => if Style.isActive c then ['\\', c] else [c]) ++ '"' :: rest) =
      read (.outside (some (begun ++ marks .double chunk))) rest := by
  induction chunk generalizing begun with
  | nil => rw [List.flatMap_nil, List.nil_append, read_close_double, marks, List.map_nil,
      List.append_nil]
  | cons c cs ih =>
    have hmarks : begun ++ [⟨c, true⟩] ++ marks .double cs = begun ++ marks .double (c :: cs) := by
      simp [marks]
    rw [List.flatMap_cons, isActive_eq_isEscapable, List.append_assoc, ← hmarks]
    cases hactive : isEscapable c with
    | true =>
      rw [if_pos rfl, List.cons_append, List.singleton_append, read_escaped hactive, ih]
    | false =>
      rw [if_neg Bool.false_ne_true, List.singleton_append, read_inside hactive, ih]

/-- What is written of a chunk is read as the chunk. -/
theorem read_write {style : Style} (hne : chunk ≠ []) (h : CanWrite style chunk) :
    read (.outside word) (style.write chunk ++ rest) =
      read (.outside (some (word.getD [] ++ marks style chunk))) rest := by
  cases style with
  | unquoted =>
    obtain ⟨c, cs, rfl⟩ := List.exists_cons_of_ne_nil hne
    obtain ⟨hc, hcs⟩ := List.forall_mem_cons.1 h
    rw [Style.write, List.cons_append, read_plain (notMem_specials_of_allows hc), read_unquoted hcs]
    simp [marks]
  | single =>
    rw [Style.write, List.cons_append, List.cons_append, List.append_assoc, read_open_single]
    exact read_single h
  | double =>
    rw [Style.write, List.cons_append, List.cons_append, List.append_assoc, read_open_double]
    exact read_double chunk rest

end

/-! ## Reading a line -/

/-- A requoted word as it is read. -/
def wordMarks (w : String) : Word :=
  (chunks w.toList).flatMap fun p => marks p.1 p.2

theorem text_wordMarks (w : String) : (wordMarks w).text = w := by
  have hmarks (p : Style × List Char) : (marks p.1 p.2).map Mark.char = p.2 := by
    simp [marks, Function.comp_def]
  rw [Word.text, wordMarks, List.map_flatMap]
  simp only [hmarks]
  rw [flatMap_chunks, String.ofList_toList]

/-- What is not quoted is allowed to stand without quotes. -/
theorem inert_wordMarks (w : String) : (wordMarks w).Inert := by
  intro mark hmark hspecial
  obtain ⟨p, hp, hmark⟩ := List.mem_flatMap.1 hmark
  obtain ⟨c, hc, rfl⟩ := List.mem_map.1 hmark
  have hwrite := (isChunk_of_mem_chunks hp).canWrite
  obtain ⟨style, chunk⟩ := p
  cases style with
  | unquoted => exact absurd hspecial (notMem_specials_of_allows (hwrite c hc))
  | _ => rfl

theorem read_chunks {ps : List (Style × List Char)} (h : ∀ p ∈ ps, IsChunk p.1 p.2)
    (begun : Word) (rest : List Char) :
    read (.outside (some begun)) (ps.flatMap (fun p => p.1.write p.2) ++ rest) =
      read (.outside (some (begun ++ ps.flatMap fun p => marks p.1 p.2))) rest := by
  induction ps generalizing begun with
  | nil => simp
  | cons p ps ih =>
    obtain ⟨hp, hps⟩ := List.forall_mem_cons.1 h
    rw [List.flatMap_cons, List.append_assoc, read_write hp.ne_nil hp.canWrite, ih hps]
    simp

/-- A requoted word is read as the word. -/
theorem read_word (w : String) (rest : List Char) :
    read (.outside none) ((Requote.word w).toList ++ rest) =
      read (.outside (some (wordMarks w))) rest := by
  rw [Requote.word]
  by_cases hw : w.isEmpty
  · rw [if_pos hw]
    obtain rfl : w = "" := by simpa using hw
    have hmarks : wordMarks "" = [] := by simp [wordMarks, chunks]
    rw [hmarks]
    exact read_open_single.trans read_close_single
  · rw [if_neg hw, String.toList_ofList, wordMarks]
    have hchunks : ∀ p ∈ chunks w.toList, IsChunk p.1 p.2 := fun p => isChunk_of_mem_chunks
    cases hps : chunks w.toList with
    | nil =>
      have hnil := flatMap_chunks w.toList
      rw [hps, List.flatMap_nil] at hnil
      exact absurd (String.isEmpty_iff.2 (String.toList_eq_nil_iff.1 hnil.symm)) hw
    | cons p ps =>
      rw [hps] at hchunks
      obtain ⟨hp, hps'⟩ := List.forall_mem_cons.1 hchunks
      rw [List.flatMap_cons, List.append_assoc, read_write hp.ne_nil hp.canWrite,
        read_chunks hps', Option.getD_none, List.nil_append, List.flatMap_cons]

/-- Requoted words with single spaces between them are read as the words. -/
theorem read_words (w : String) (ws : List String) :
    read (.outside none) (" ".intercalate ((w :: ws).map Requote.word)).toList =
      some ((w :: ws).map wordMarks) := by
  induction ws generalizing w with
  | nil =>
    have h := read_word w []
    rw [List.append_nil] at h
    simp [h, read_outside_nil]
  | cons v ws ih =>
    have hjoin : (" ".intercalate ((w :: v :: ws).map Requote.word)).toList =
        (Requote.word w).toList ++
          ' ' :: (" ".intercalate ((v :: ws).map Requote.word)).toList := by
      simp [String.intercalate_cons_cons]
    rw [hjoin, read_word, read_space, ih]
    rfl

end LineShell.ShellWords

namespace LineShell
open ShellWords Requote

/-- What holds of a command that is requoted. -/
structure SimpleCommand.ReadBack (cmd : SimpleCommand) : Prop where
  /-- The line is read as the words of the command, and nothing else is done to them. -/
  line : ∃ ws, read (.outside none) cmd.shellLine.toList = some ws ∧ ws.map Word.text = cmd.words ∧
    ∀ w ∈ ws, w.Inert
  /-- A word is cut into chunks, none of which is empty. -/
  chunks : ∀ w ∈ cmd.words, (chunks w.toList).flatMap (·.2) = w.toList ∧
    ∀ p ∈ chunks w.toList, IsChunk p.1 p.2

/-- A requoted command is read by a POSIX shell as the command that it is. -/
theorem SimpleCommand.readBack (cmd : SimpleCommand)
    (h : ∀ w ∈ cmd.words, '\x00' ∉ w.toList) : cmd.ReadBack where
  line := by
    have hline : cmd.shellLine = " ".intercalate (cmd.words.map Requote.word) := by
      rw [shellLine, Requote.line, if_neg]
      simpa using h
    refine ⟨cmd.words.map wordMarks, ?_, ?_, ?_⟩
    · rw [hline, words, read_words]
    · simp [Function.comp_def, text_wordMarks]
    · simp [inert_wordMarks]
  chunks w _ := ⟨flatMap_chunks w.toList, fun _ => isChunk_of_mem_chunks⟩

theorem SimpleCommand.readBack_of_every_style :
    (∀ w ∈ SimpleCommand.words ⟨"it's", ["^\\!", "", "$x\n\x60y\x60"]⟩, '\x00' ∉ w.toList) ∧
      SimpleCommand.ReadBack ⟨"it's", ["^\\!", "", "$x\n\x60y\x60"]⟩ :=
  ⟨by decide, SimpleCommand.readBack _ (by decide)⟩

end LineShell
