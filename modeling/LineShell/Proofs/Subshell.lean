import LineShell.Proofs.EchoLine
import LineShell.Proofs.Idle

/-!
# What the system's shell leaves behind

A command that is run by way of the system's shell is taken for a success or for one that was not
found, depending on whether anything was written to its standard error. Each way has its own
functions that trim texts and leave out empty lines. Whichever is taken, and whatever the exit code
is, both streams are shown in full, up to the blanks at their ends.
-/
namespace LineShell

namespace Text

/-- A text cut off behind its last character that is not blank. -/
structure CutEnd (s kept : String) : Prop where
  blanks : ∃ rest, AllBlank rest ∧ s.toList = kept.toList ++ rest
  solid : ∀ c ∈ kept.toList.getLast?, isBlank c = false

theorem cutEnd_trimEnd (s : String) : CutEnd s (trimEnd s) where
  blanks := by
    refine ⟨(s.toList.reverse.takeWhile isBlank).reverse, ?_, ?_⟩
    · intro c hc
      rw [List.mem_reverse] at hc
      exact List.mem_takeWhile_imp hc
    · rw [toList_trimEnd]
      exact (dropEndWhile_append_takeEnd isBlank s.toList).symm
  solid := by
    rw [toList_trimEnd]
    exact fun _ => getLast?_dropEndWhile

/-- There is one way to cut off a text. -/
theorem CutEnd.eq_trimEnd {s kept : String} (h : CutEnd s kept) : kept = trimEnd s := by
  obtain ⟨rest, hrest, hs⟩ := h.blanks
  have hkept : trimEndChars kept.toList = kept.toList := dropEndWhile_eq_self h.solid
  rw [trimEnd, hs, trimEndChars_append_of_allBlank _ hrest, hkept, String.ofList_toList]

end Text

/-- The lines shown for a command that counts as not found, given what is shown of its streams. A
stream of which nothing is shown has no line. -/
def notFoundLines (shellName command out err : String) : List String :=
  (if out = "" then [] else [out]) ++
    [shellName ++ ": " ++ command ++ ": command not found.", helpHint] ++
    (if err = "" then [] else [err])

namespace Diagnostic

/-- The diagnostic for a command that counts as not found, without colours. -/
theorem render_commandNotFound {palette : Palette} (h : palette.enabled = false)
    (shellName line command stdout stderr : String) :
    render palette shellName line (.launch (.commandNotFound command stdout stderr)) =
      "\n".intercalate
        (notFoundLines shellName command (Text.trimEnd stdout) (Text.trimEnd stderr)) := by
  have hbody : body palette shellName line (.launch (.commandNotFound command stdout stderr)) =
      trimmedLine stdout ++ [shellName ++ ": " ++ command ++ ": command not found."] := by
    rw [body, Palette.paint_of_not_enabled h]
  have hhint : hint palette (.launch (.commandNotFound command stdout stderr)) = [helpHint] := by
    simp [hint, Palette.paint_of_not_enabled h]
  have hcomplaint : complaint palette (.launch (.commandNotFound command stdout stderr)) =
      trimmedLine stderr := by
    have hpaint : palette.paint .purple = id := funext (Palette.paint_of_not_enabled h .purple)
    rw [complaint, hpaint, List.map_id]
  rw [render, hbody, hhint, hcomplaint, notFoundLines, trimmedLine, trimmedLine, List.append_assoc,
    List.append_assoc, List.append_assoc]
  rfl

end Diagnostic

variable {σ : Type} {sys : System σ} {shell : Shell σ} {line : String} {cmd : SimpleCommand}
  {pid : Pid} {started world : World σ} {remains : Remains}

/-- What the subshell launcher makes of what is left behind. -/
theorem Launcher.runSubshell_of_collect {dir : Path} {before : World σ}
    (hstart : sys.start (shellCommand cmd) dir ⟨.inherited, .piped, .piped⟩ before =
      (.ok pid, started))
    (hcollect : sys.collect pid started = (.ok remains, world)) :
    runSubshell sys dir cmd before =
      (if remains.errors = [] then .ok (Utf8.lossy remains.output)
        else .error (.commandNotFound cmd.display (Utf8.lossy remains.output)
          (Utf8.lossy remains.errors)), world) := by
  rw [runSubshell, hstart]
  simp only [hcollect, List.isEmpty_iff]
  split <;> rfl

namespace Dispatch

/-- A command that wrote a text is reported by it, up to the blanks at its end. -/
theorem conclude_outcome (stdout : String) :
    conclude line (.ok (Launcher.outcome stdout)) shell =
      (.report (Text.trimEnd stdout), { shell with session := shell.session.record line }) := by
  rw [Launcher.outcome]
  split_ifs with hblank
  · rw [hblank]
    rfl
  · rfl

/-- Handling a line that asks for one command is running the command. -/
theorem ofLine_of_simple (hplan : Plan.parse (Text.trim line) = .ok (.simple cmd)) :
    ofLine sys line shell =
      conclude (Text.trim line) (cmd.run sys shell).1 (cmd.run sys shell).2 := by
  have hne : Text.trim line ≠ "" := by
    intro hblank
    have hempty : Plan.parse "" = .ok .noOp := by decide +kernel
    rw [hblank, hempty] at hplan
    cases hplan
  rw [ofLine_eq sys shell hne, outcome, hplan]
  rfl

/-- What the system's shell writes for a program is reported in full, whatever the exit code: both
streams are decoded and cut off behind their last character that is not blank. If nothing was
written to the standard error, the report is the standard output; else it has the lines of a command
that was not found. -/
theorem ofLine_subshell
    (hplan : Plan.parse (Text.trim line) = .ok (.simple cmd))
    (hprogram : Builtin.ofName? cmd.program = none)
    (hlauncher : shell.session.launcher = .subshell)
    (hcolours : shell.session.palette.enabled = false)
    (hstart : sys.start (Launcher.shellCommand cmd) shell.session.workingDir
      ⟨.inherited, .piped, .piped⟩ shell.world = (.ok pid, started))
    (hcollect : sys.collect pid started = (.ok remains, world)) :
    ∃ out err, Text.CutEnd (Utf8.lossy remains.output) out ∧
      Text.CutEnd (Utf8.lossy remains.errors) err ∧
      ofLine sys line shell =
        (.report (if remains.errors = [] then out else "\n".intercalate
            (notFoundLines shell.session.config.shellName cmd.display out err)),
          ⟨shell.session.record (Text.trim line), world⟩) := by
  refine ⟨_, _, Text.cutEnd_trimEnd _, Text.cutEnd_trimEnd _, ?_⟩
  have hrun := Launcher.runSubshell_of_collect hstart hcollect
  rw [ofLine_of_simple hplan, SimpleCommand.run, hprogram, hlauncher, Launcher.run, hrun]
  by_cases hquiet : remains.errors = []
  · rw [if_pos hquiet, if_pos hquiet]
    exact conclude_outcome _
  · rw [if_neg hquiet, if_neg hquiet, ← Diagnostic.render_commandNotFound hcolours]
    rfl

end Dispatch

/-- A system in which every program can be started and leaves the same behind. -/
def System.leaving (remains : Remains) : System ℕ where
  __ := System.idle
  start _ _ _ world := (.ok 2, world)
  collect _ world := (.ok remains, world)

/-- A shell in the root directory of an empty system that runs programs by way of the system's
shell. -/
def Shell.bySubshell : Shell ℕ where
  session := Session.start { launcher := .subshell } false "/" "ada" "box" none
  world := ⟨⟨[]⟩, [], .ok [], [], 0⟩

namespace Dispatch

/-- A program that succeeds and complains all the same, with a byte that is not UTF-8 and blanks at
the end of what it writes. -/
theorem ofLine_subshell_complaint :
    let sys := System.leaving ⟨some 0, [111, 107, 255, 10], [119, 9]⟩
    (ofLine sys " cc a.c" .bySubshell).1 = .report
      ("ok\ufffd\nIIUI-Shell: cc a.c: command not found.\n" ++
        "Type 'help' to check valid commands.\nw") := by
  intro sys
  let cmd : SimpleCommand := ⟨"cc", ["a.c"]⟩
  have hplan : Plan.parse (Text.trim " cc a.c") = .ok (.simple cmd) := by decide +kernel
  have hstart : sys.start (Launcher.shellCommand cmd) "/" ⟨.inherited, .piped, .piped⟩
      Shell.bySubshell.world = (.ok 2, Shell.bySubshell.world) := rfl
  have hcolours : Shell.bySubshell.session.palette.enabled = false := rfl
  obtain ⟨out, err, hout, herr, hline⟩ :=
    ofLine_subshell hplan (by decide) rfl hcolours hstart rfl
  have hout' : out = "ok\ufffd" := hout.eq_trimEnd.trans (by decide +kernel)
  have herr' : err = "w" := herr.eq_trimEnd.trans (by decide +kernel)
  rw [hline, hout', herr']
  decide +kernel

end Dispatch
end LineShell
