import LineShell.Dispatch
import LineShell.Proofs.PlanPrint
import LineShell.Proofs.Scan

/-!
# Lines that echo words

The lines that echo words between double quotes, to the terminal or to a file, and what comes of
them. Whatever the words hold, the words themselves are echoed; whatever follows the operator, as
long as it has no operator of its own, is the name of the file.
-/
namespace LineShell

/-- The line that echoes words. -/
def echoLine (words : List String) : String :=
  " ".intercalate ("echo" :: words.map Token.quote)

def redirectedEcho (words : List String) (mode : RedirectMode) (target : String) : String :=
  echoLine words ++ " " ++ mode.symbol ++ " " ++ target

/-- A text that a line may have after a redirection: it has no operators and no open quote, and
there is a name in it. -/
structure IsTarget (s : String) : Prop where
  trimmed : Text.Trimmed s.toList
  closed : Token.quoteOpen false s.toList = false
  plain : Token.NoOperator (Token.marks false s.toList)
  named : Plan.bareText s.toList ≠ ""

/-- A name between double quotes is such a text. -/
theorem isTarget_quote {name : String} (hne : name ≠ "") (hq : '"' ∉ name.toList) :
    IsTarget (Token.quote name) ∧ Plan.bareText (Token.quote name).toList = name := by
  have hword := Token.isWordText_enclose hq
  have hbare : Plan.bareText (Token.quote name).toList = name := by
    have h := Plan.bareText_eq (Token.trimmed_enclose name.toList) Text.allBlank_nil
      Text.allBlank_nil
    rw [List.nil_append, List.append_nil, Token.unquote_enclose hq, String.ofList_toList] at h
    rw [Lexeme.toList_quote, h]
  refine ⟨⟨?_, ?_, ?_, by rwa [hbare]⟩, hbare⟩
  · rw [Lexeme.toList_quote]
    exact Token.trimmed_enclose _
  · rw [Lexeme.toList_quote]
    exact Token.quoteOpen_of_isWordText hword
  · rw [Lexeme.toList_quote]
    exact Token.noOperator_marks_of_isWordText hword

namespace EchoLine
open Lexeme (Laid IsGap NoFault tokens ofChars)

theorem toList_echoLine (words : List String) :
    (echoLine words).toList =
      ['e', 'c', 'h', 'o'] ++ words.flatMap (' ' :: Token.enclose ·.toList) := by
  rw [echoLine, Lexeme.toList_intercalate_cons]
  simp [List.flatMap_map]

theorem toList_redirectedEcho (words : List String) (mode : RedirectMode) (target : String) :
    (redirectedEcho words mode target).toList =
      ['e', 'c', 'h', 'o'] ++ words.flatMap (' ' :: Token.enclose ·.toList) ++
        ([' '] ++ mode.symbol.toList ++ (' ' :: target.toList)) := by
  simp [redirectedEcho, toList_echoLine]

theorem spells_echo : (Token.word "echo").Spells ['e', 'c', 'h', 'o'] := by
  have h : (Token.word (String.ofList (Token.unquote ['e', 'c', 'h', 'o']))).Spells
      ['e', 'c', 'h', 'o'] := .word (by simp) (by decide)
  have hword : String.ofList (Token.unquote ['e', 'c', 'h', 'o']) = "echo" := by decide
  rwa [hword] at h

theorem trimmed_echo : Text.Trimmed ['e', 'c', 'h', 'o'] := by
  constructor <;> simp <;> decide

/-- Nothing is trimmed from a line that echoes words. -/
theorem trim_echoLine {words : List String} (hne : words ≠ []) :
    Text.trim (echoLine words) = echoLine words := by
  obtain ⟨w, ws, rfl⟩ := List.exists_cons_of_ne_nil hne
  apply Text.Trimmed.trim_eq
  have h := trimmed_echo.append (by simp) (Lexeme.trimmed_flatMap_quoted w ws)
    (by simp [Token.enclose]) [' ']
  simpa [toList_echoLine] using h

theorem trim_redirectedEcho (words : List String) (mode : RedirectMode) {target : String}
    (ht : IsTarget target) :
    Text.trim (redirectedEcho words mode target) = redirectedEcho words mode target := by
  have hne : target.toList ≠ [] := by
    intro hnil
    exact ht.named (by rw [hnil]; rfl)
  apply Text.Trimmed.trim_eq
  have h := trimmed_echo.append (by simp) ht.trimmed hne
    (words.flatMap (' ' :: Token.enclose ·.toList) ++ ([' '] ++ mode.symbol.toList ++ [' ']))
  simpa [toList_redirectedEcho] using h

/-- A line that echoes words is read as the command with these words. -/
theorem parse_echoLine {words : List String} (hq : ∀ w ∈ words, '"' ∉ w.toList) :
    Plan.parse (echoLine words) = .ok (.simple ⟨"echo", words⟩) := by
  have hargs := Lexeme.laid_args hq Token.stopsWord_nil (.done Lexeme.isGap_nil)
  have hstop := Lexeme.stopsWord_flatMap_quoted words Token.stopsWord_nil
  have h := Laid.token Lexeme.isGap_nil spells_echo hstop hargs
  rw [List.append_nil, List.append_nil, List.nil_append, ← toList_echoLine] at h
  refine Plan.parse_of_reads h ?_ (.simple ?_)
  · simp
  · simp [SimpleCommand.words]

/-- What stands after the operator of such a line are words. -/
theorem exists_words_of_isTarget {target : String} (ht : IsTarget target) :
    ∃ (ls : List Lexeme) (vs : List String),
      Laid (' ' :: target.toList) ls ∧ NoFault ls ∧ tokens ls = vs.map .word := by
  have hlaid := Lexeme.laid_ofChars (' ' :: target.toList)
  have hfault : NoFault (ofChars (' ' :: target.toList)) := by
    rw [hlaid.noFault_iff, Token.quoteOpen_cons_of_ne (by decide)]
    exact ht.closed
  have hplain : Token.NoOperator (Token.marks false (' ' :: target.toList)) := by
    have h := (Token.noOperator_marks_of_isGap Lexeme.isGap_space false).append ht.plain
    rwa [← List.singleton_append, Token.marks_append, Token.quoteOpen_cons_of_ne (by decide)]
  obtain ⟨hpipes, hampersands, hredirs⟩ := hlaid.counts hfault
  have hnone (c : Char) (hc : Token.isOperator c = true) :
      (Token.marks false (' ' :: target.toList)).count (c, true) = 0 :=
    List.count_eq_zero.2 (hplain.notMem hc)
  have hzero := Token.redirections_append_of_noOperator hplain []
  rw [List.append_nil] at hzero
  obtain ⟨vs, hvs⟩ := Plan.exists_words
    (List.count_eq_zero.1 (hpipes.symm.trans (hnone '|' (by decide)))) (hredirs.symm.trans hzero)
    (hampersands.symm.trans (hnone '&' (by decide)))
  exact ⟨_, vs, hlaid, hfault, hvs⟩

/-- A line that echoes words with a redirection is read as the redirection, with the words and the
text that they are together. -/
theorem parse_redirectedEcho {words : List String} {target : String} (mode : RedirectMode)
    (hq : ∀ w ∈ words, '"' ∉ w.toList) (ht : IsTarget target) :
    Plan.parse (redirectedEcho words mode target) =
      .ok (.redirected
        ⟨⟨"echo", words⟩, " ".intercalate words, mode, Plan.bareText target.toList⟩) := by
  obtain ⟨ls, vs, hlaid, hfault, hvs⟩ := exists_words_of_isTarget ht
  have hbare : Plan.bareText (' ' :: target.toList) = Plan.bareText target.toList := by
    have h := Plan.bareText_eq ht.trimmed Lexeme.isGap_space.allBlank Text.allBlank_nil
    have h' := Plan.bareText_eq ht.trimmed Text.allBlank_nil Text.allBlank_nil
    rw [List.append_nil] at h h'
    exact h.trans h'.symm
  have hstop : mode.token.Stops (' ' :: target.toList) := mode.stops_token (by simp)
  have h := Plan.parse_redirection spells_echo hq Lexeme.isGap_space hstop hlaid hfault hvs
    (by rw [hbare]; exact ht.named) (toList_redirectedEcho words mode target)
  rwa [hbare] at h

end EchoLine

namespace Dispatch

/-- The report on a line, before it is shown and recorded. -/
def outcome {σ : Type} (sys : System σ) (line : String) (shell : Shell σ) : Report × Shell σ :=
  match Plan.parse (Text.trim line) with
  | .error e => (.error (.parse e), shell)
  | .ok plan => plan.execute sys shell

variable {σ : Type} (sys : System σ) (shell : Shell σ)

/-- Handling a line that is not blank is showing and recording its report. -/
theorem ofLine_eq {line : String} (h : Text.trim line ≠ "") :
    ofLine sys line shell =
      conclude (Text.trim line) (outcome sys line shell).1 (outcome sys line shell).2 := by
  rw [ofLine, ofLineBy, outcome]
  simp only [if_neg h]
  cases Plan.parse (Text.trim line) <;> rfl

theorem outcome_echoLine {words : List String} (hne : words ≠ [])
    (hq : ∀ w ∈ words, '"' ∉ w.toList) :
    outcome sys (echoLine words) shell = (Builtin.runEcho Builtin.echo.usage words, shell) := by
  have hecho : Builtin.ofName? "echo" = some .echo := Builtin.ofName?_name .echo
  rw [outcome, EchoLine.trim_echoLine hne, EchoLine.parse_echoLine hq]
  simp only [Plan.execute, SimpleCommand.run, hecho]
  rfl

theorem outcome_redirectedEcho {words : List String} {target : String} (mode : RedirectMode)
    (hq : ∀ w ∈ words, '"' ∉ w.toList) (ht : IsTarget target) :
    outcome sys (redirectedEcho words mode target) shell =
      (Plan.redirected ⟨⟨"echo", words⟩, " ".intercalate words, mode,
        Plan.bareText target.toList⟩).execute sys shell := by
  rw [outcome, EchoLine.trim_redirectedEcho words mode ht, EchoLine.parse_redirectedEcho mode hq ht]

theorem trim_echoLine_ne {words : List String} (hne : words ≠ []) :
    Text.trim (echoLine words) ≠ "" := by
  rw [EchoLine.trim_echoLine hne]
  intro h
  have hlist := EchoLine.toList_echoLine words
  simp [h] at hlist

theorem trim_redirectedEcho_ne (words : List String) (mode : RedirectMode) {target : String}
    (ht : IsTarget target) : Text.trim (redirectedEcho words mode target) ≠ "" := by
  rw [EchoLine.trim_redirectedEcho words mode ht]
  intro h
  have hlist := EchoLine.toList_redirectedEcho words mode target
  simp [h] at hlist

end Dispatch

namespace Redirection

/-- What a redirection keeps of what a file held. -/
def kept : RedirectMode → Bytes → Bytes
  | .append, old => old
  | _, _ => []

theorem write_eq (fs : FileSystem) (path : Path) (mode : RedirectMode) (text : String) :
    write fs path mode text =
      fs.update path fun old => kept mode old ++ Utf8.encode (text ++ "\n") := by
  cases mode <;> rfl

end Redirection
end LineShell
