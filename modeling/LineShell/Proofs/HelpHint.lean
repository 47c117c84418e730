import LineShell.Proofs.Painting
import Mathlib.Data.List.Infix

/-!
# Pointers to help

A diagnostic for a line that does not parse, or for a command that cannot be run, names the shell
and what failed. The errors that call for help add one line that points to the help command,
whatever lines there are in the texts that they carry. Only a command that was called wrongly
shows how to call it and nothing else.
-/
namespace LineShell

@[simp] theorem Palette.paint_plain (tint : Tint) (text : String) :
    plain.paint tint text = text :=
  rfl

namespace Diagnostic

/-- A text holds another one. -/
def Shows (text part : String) : Prop :=
  part.toList <:+: text.toList

instance (text part : String) : Decidable (Shows text part) :=
  inferInstanceAs (Decidable (part.toList <:+: text.toList))

def lines (text : String) : List (List Char) :=
  text.toList.splitOn '\n'

theorem lines_append_newline (s t : String) : lines (s ++ "\n" ++ t) = lines s ++ lines t := by
  have hnewline : "\n".toList = ['\n'] := rfl
  simp [lines, hnewline, List.splitOn_append_cons_self]

theorem lines_intercalate {texts : List String} (h : texts ≠ []) :
    lines ("\n".intercalate texts) = texts.flatMap lines := by
  induction texts with
  | nil => contradiction
  | cons text texts ih =>
    by_cases hrest : texts = []
    · simp [hrest]
    · rw [String.intercalate_cons_of_ne_nil hrest, lines_append_newline, ih hrest,
        List.flatMap_cons]

theorem shows_intercalate {sep text part : String} {texts : List String} (hmem : text ∈ texts)
    (h : Shows text part) : Shows (sep.intercalate texts) part := by
  induction texts with
  | nil => simp at hmem
  | cons first texts ih =>
    by_cases hrest : texts = []
    · obtain rfl : text = first := by simpa [hrest] using hmem
      simpa [hrest] using h
    · rw [String.intercalate_cons_of_ne_nil hrest, Shows, String.toList_append,
        String.toList_append]
      obtain rfl | hmem := List.mem_cons.1 hmem
      · rw [List.append_assoc]
        exact h.trans (List.prefix_append _ _).isInfix
      · exact (ih hmem).trans (List.suffix_append _ _).isInfix

/-- The parts of a message that begins with the shell and what failed. -/
theorem shows_message (shell failed rest : String) :
    Shows (shell ++ ": " ++ failed ++ rest) shell ∧
      Shows (shell ++ ": " ++ failed ++ rest) failed :=
  ⟨⟨[], ": ".toList ++ failed.toList ++ rest.toList, by simp⟩,
    ⟨shell.toList ++ ": ".toList, rest.toList, by simp⟩⟩

theorem body_ne_nil (palette : Palette) (shell line : String) (e : ShellError) :
    body palette shell line e ≠ [] := by
  unfold body
  split <;> simp

theorem shows_of_mem_body {palette : Palette} {shell line text part : String} {e : ShellError}
    (hmem : text ∈ body palette shell line e) (h : Shows text part) :
    Shows (render palette shell line e) part :=
  shows_intercalate (List.mem_append_left _ (List.mem_append_left _ hmem)) h

/-- The diagnostic for an error that is not a wrong call of a command. -/
structure Pointing (shell line : String) (e : ShellError) (text : String) : Prop where
  /-- A line that does not parse is shown with the shell. -/
  of_parse : ∀ cause, e = .parse cause → Shows text shell ∧ Shows text line
  /-- A command that cannot be run is shown with the shell. -/
  of_launch : ∀ cause, e = .launch cause → Shows text shell ∧ Shows text cause.command
  /-- Among the lines of what the error carries there is one more, if it calls for help. -/
  lines_eq : lines text = (body .plain shell line e).flatMap lines ++
    (if e.wantsHelpHint then [helpHint.toList] else []) ++ (complaint .plain e).flatMap lines
  /-- So the pointer is added once, or not at all. -/
  count_eq : (lines text).count helpHint.toList =
    ((body .plain shell line e ++ complaint .plain e).flatMap lines).count helpHint.toList +
      if e.wantsHelpHint then 1 else 0

variable {shell line : String} {e : ShellError}

theorem shows_of_parse (cause : ParseError) :
    Shows (render .plain shell line (.parse cause)) shell ∧
      Shows (render .plain shell line (.parse cause)) line := by
  have hmessage := shows_message shell line (": " ++ (ShellError.parse cause).message)
  have hmem : shell ++ ": " ++ line ++ (": " ++ (ShellError.parse cause).message) ∈
      body .plain shell line (.parse cause) := by
    simp [body, String.append_assoc]
  exact ⟨shows_of_mem_body hmem hmessage.1, shows_of_mem_body hmem hmessage.2⟩

theorem shows_of_launch {cause : LaunchError}
    (h : ∀ program usage, cause ≠ .invalidArguments program usage) :
    Shows (render .plain shell line (.launch cause)) shell ∧
      Shows (render .plain shell line (.launch cause)) cause.command := by
  have hmessage := shows_message shell cause.command ": command not found."
  have hmem : shell ++ ": " ++ cause.command ++ ": command not found." ∈
      body .plain shell line (.launch cause) := by
    cases cause with
    | commandNotFound command stdout stderr => simp [body, LaunchError.command]
    | spawn command cause => simp [body, LaunchError.command]
    | invalidArguments program usage => exact absurd rfl (h program usage)
  exact ⟨shows_of_mem_body hmem hmessage.1, shows_of_mem_body hmem hmessage.2⟩

theorem lines_helpHint : lines helpHint = [helpHint.toList] := by
  decide

/-- The two fixed choices agree with what the errors say of themselves, wrong calls apart. -/
theorem hint_plain (h : ∀ program usage, e ≠ .launch (.invalidArguments program usage)) :
    hint .plain e = if e.wantsHelpHint then [helpHint] else [] := by
  cases e with
  | launch cause =>
    cases cause with
    | commandNotFound command stdout stderr => rfl
    | spawn command cause => rfl
    | invalidArguments program usage => exact absurd rfl (h program usage)
  | usage text => rfl
  | _ => rfl

theorem lines_render (h : ∀ program usage, e ≠ .launch (.invalidArguments program usage)) :
    lines (render .plain shell line e) = (body .plain shell line e).flatMap lines ++
      (if e.wantsHelpHint then [helpHint.toList] else []) ++
        (complaint .plain e).flatMap lines := by
  have hne : body .plain shell line e ++ hint .plain e ++ complaint .plain e ≠ [] := by
    simp [body_ne_nil]
  rw [render, lines_intercalate hne, List.flatMap_append, List.flatMap_append, hint_plain h]
  split_ifs <;> simp [lines_helpHint]

theorem pointing_render (h : ∀ program usage, e ≠ .launch (.invalidArguments program usage)) :
    Pointing shell line e (render .plain shell line e) where
  of_parse := by
    rintro cause rfl
    exact shows_of_parse cause
  of_launch := by
    rintro cause rfl
    exact shows_of_launch fun program usage hcause => h program usage (by rw [hcause])
  lines_eq := lines_render h
  count_eq := by
    rw [lines_render h, List.flatMap_append, List.count_append, List.count_append,
      List.count_append]
    by_cases hwants : e.wantsHelpHint = true
    · simp only [if_pos hwants, List.count_singleton_self]
      omega
    · simp [hwants]

/-- With colours off, a diagnostic names the shell and what failed, and it has one line more than
what the error carries exactly if the error calls for help. A command that was called wrongly shows
its usage alone. -/
theorem render_points_to_help (shell line : String) (e : ShellError) :
    (∀ program usage, e = .launch (.invalidArguments program usage) →
      render .plain shell line e = usage) ∧
      ((∀ program usage, e ≠ .launch (.invalidArguments program usage)) →
        Pointing shell line e (render .plain shell line e)) := by
  refine ⟨?_, pointing_render⟩
  rintro program usage rfl
  simp [render, body, hint, complaint]

theorem render_points_to_help_unknown_program :
    Pointing "tsh" "frobnicate now" (.launch (.commandNotFound "frobnicate now" "" "oops\n"))
      "tsh: frobnicate now: command not found.\nType 'help' to check valid commands.\noops" :=
  (render_points_to_help "tsh" "frobnicate now"
    (.launch (.commandNotFound "frobnicate now" "" "oops\n"))).2 (by simp)

/-- A wrong call is an error of a command that cannot be run, and it calls for help, but its
diagnostic neither names the shell nor points to help. -/
theorem not_points_to_help_wrong_sleep :
    (ShellError.launch (.invalidArguments "sleep" HowTo.sleep)).wantsHelpHint = true ∧
      ¬ Shows (render .plain "tsh" "sleep soon &"
        (.launch (.invalidArguments "sleep" HowTo.sleep))) "tsh" ∧
      helpHint.toList ∉ lines (render .plain "tsh" "sleep soon &"
        (.launch (.invalidArguments "sleep" HowTo.sleep))) := by
  decide

end Diagnostic
end LineShell
