import LineShell.Proofs.AppendLog

/-!
# Redirections that are refused

A redirection is refused because its command is not echo, because its text has an escape that cannot
be decoded, because its target cannot be opened, or because there is nothing to read. All of this is
found out before a file is touched, so that a redirection that is refused leaves every file as it
was. So does a line that is not understood.
-/
namespace LineShell
namespace FileSystem

/-- What a file is to hold has no part in whether it can be opened. -/
theorem fst_update (fs : FileSystem) (path : Path) (g g' : Bytes → Bytes) :
    (fs.update path g).1 = (fs.update path g').1 := by
  rw [update, update]
  cases fs.locate .follow path with
  | error e => rfl
  | ok a =>
    cases a with
    | missing dir name slash => cases slash <;> rfl
    | found place node last slash =>
      dsimp only
      split
      · rfl
      · cases node <;> rfl

/-- A file that cannot be opened is left alone. -/
theorem update_eq_of_error {fs : FileSystem} {path : Path} {g : Bytes → Bytes} {e : IoError}
    (h : (fs.update path g).1 = .error e) : fs.update path g = (.error e, fs) := by
  have hopen : ¬ fs.CanOpen path := by
    rw [CanOpen, fst_update fs path id g, h]
    simp
  obtain ⟨e', hupdate⟩ := update_of_not_canOpen hopen g
  rw [hupdate] at h
  rw [hupdate, Except.error.inj h]

end FileSystem

namespace Redirection
variable {r : Redirection} {cwd : Path} {fs : FileSystem} {e : ShellError}

/-- Why a redirection is refused, and the error that says so. -/
inductive Refused (r : Redirection) (cwd : Path) (fs : FileSystem) : ShellError → Prop
  | program : r.command.program ≠ "echo" →
      Refused r cwd fs (.unsupportedRedirection r.command.program)
  | text {e : EscapeError} : r.command.program = "echo" → r.mode ≠ .readFrom →
      unescape r.text = .error e → Refused r cwd fs (.escape e)
  | target {text : String} {e : IoError} : r.IsWriteOf text →
      (fs.update (Path.resolve cwd r.target) id).1 = .error e → Refused r cwd fs (.io e)
  | missing {e : IoError} : r.IsRead → fs.readText (Path.resolve cwd r.target) = .error e →
      e.isNotFound = true → Refused r cwd fs (.pathNotFound "Input file" r.target)
  | unreadable {e : IoError} : r.IsRead → fs.readText (Path.resolve cwd r.target) = .error e →
      e.isNotFound = false → Refused r cwd fs (.io e)

/-- What is refused is not done. -/
theorem Refused.apply_eq (h : r.Refused cwd fs e) : r.apply cwd fs = (.error e, fs) := by
  cases h with
  | program hprogram => exact apply_of_program_ne hprogram
  | text hprogram hmode htext => exact apply_of_unescape_error hprogram hmode htext
  | @target text _ hwrite hopen =>
    rw [FileSystem.fst_update fs _ id
      fun old => kept r.mode old ++ Utf8.encode (text ++ "\n")] at hopen
    exact hwrite.apply_of_update_error (FileSystem.update_eq_of_error hopen)
  | missing hread htext hmissing => rw [hread.apply_eq, htext]; simp [hmissing]
  | unreadable hread htext hmissing => rw [hread.apply_eq, htext]; simp [hmissing]

/-- There is no other reason to refuse a redirection. -/
theorem refused_of_apply (h : (r.apply cwd fs).1 = .error e) : r.Refused cwd fs e := by
  by_cases hprogram : r.command.program = "echo"
  case neg =>
    rw [apply_of_program_ne hprogram] at h
    exact Except.error.inj h ▸ .program hprogram
  by_cases hmode : r.mode = .readFrom
  case pos =>
    have hread : r.IsRead := ⟨hprogram, hmode⟩
    rw [hread.apply_eq] at h
    cases htext : fs.readText (Path.resolve cwd r.target) with
    | ok held => simp [htext] at h
    | error cause =>
      rw [htext] at h
      cases hmissing : cause.isNotFound with
      | true =>
        simp only [hmissing, if_true] at h
        exact Except.error.inj h ▸ .missing hread htext hmissing
      | false =>
        simp only [hmissing, Bool.false_eq_true, if_false] at h
        exact Except.error.inj h ▸ .unreadable hread htext hmissing
  cases htext : unescape r.text with
  | error cause =>
    rw [apply_of_unescape_error hprogram hmode htext] at h
    exact Except.error.inj h ▸ .text hprogram hmode htext
  | ok text =>
    have hwrite : r.IsWriteOf text := ⟨hprogram, hmode, htext⟩
    let g := fun old => kept r.mode old ++ Utf8.encode (text ++ "\n")
    cases hopen : (fs.update (Path.resolve cwd r.target) g).1 with
    | ok =>
      rw [apply_of_unescape_ok hprogram hmode htext (Prod.ext hopen rfl)] at h
      contradiction
    | error cause =>
      rw [hwrite.apply_of_update_error (FileSystem.update_eq_of_error hopen)] at h
      rw [FileSystem.fst_update fs _ g id] at hopen
      exact Except.error.inj h ▸ .target hwrite hopen

theorem apply_eq_error_iff : (r.apply cwd fs).1 = .error e ↔ r.Refused cwd fs e :=
  ⟨refused_of_apply, fun h => by rw [h.apply_eq]⟩

end Redirection

namespace Dispatch
variable {σ : Type} (sys : System σ) (shell : Shell σ)

@[simp] theorem world_conclude (line : String) (report : Report) :
    (conclude line report shell).2.world = shell.world := by
  rw [conclude.eq_def]
  split <;> rfl

/-- A line whose report has left the world as it was leaves it so. -/
theorem world_ofLine {line : String} (h : (outcome sys line shell).2.world = shell.world) :
    (ofLine sys line shell).2.world = shell.world := by
  by_cases hblank : Text.trim line = ""
  · rw [ofLine, ofLineBy]
    simp [hblank]
  · rw [ofLine_eq sys shell hblank, world_conclude, h]

/-- A redirection fails for the reasons that there are to refuse it, and for no other. It changes no
file then, and neither does a line that asks for it, or one that is not understood. -/
theorem refusal_changes_no_file (line : String) (r : Redirection) (cwd : Path) (fs : FileSystem) :
    (∀ e, (r.apply cwd fs).1 = .error e ↔ r.Refused cwd fs e) ∧
      (∀ e, r.Refused cwd fs e → (r.apply cwd fs).2 = fs) ∧
      (∀ e, Plan.parse (Text.trim line) = .ok (.redirected r) →
        r.Refused shell.session.workingDir shell.world.files e →
        (ofLine sys line shell).2.world = shell.world) ∧
      ∀ e, Plan.parse (Text.trim line) = .error e →
        (ofLine sys line shell).2.world = shell.world := by
  refine ⟨fun e => Redirection.apply_eq_error_iff, fun e h => ?_, fun e hparse h => ?_,
    fun e hparse => ?_⟩
  · rw [h.apply_eq]
  · apply world_ofLine
    rw [outcome, hparse]
    simp only [Plan.execute, h.apply_eq]
  · apply world_ofLine
    rw [outcome, hparse]

/-- A text with an escape that is cut short does not empty the file that it was to go to. -/
theorem refusal_keeps_full_file :
    (∃ e, (Redirection.ofEcho "\\x4" .truncate "f").Refused "/" ⟨[("f", .file [1] false)]⟩ e) ∧
      ((Redirection.ofEcho "\\x4" .truncate "f").apply "/" ⟨[("f", .file [1] false)]⟩).2 =
        ⟨[("f", .file [1] false)]⟩ := by
  have htext : ∃ e, unescape "\\x4" = .error e :=
    ⟨⟨⟨'x', 0, .tooShort 2 "4"⟩, "\\x4"⟩, by decide +kernel⟩
  obtain ⟨e, he⟩ := htext
  have hrefused : (Redirection.ofEcho "\\x4" .truncate "f").Refused "/"
      ⟨[("f", .file [1] false)]⟩ (.escape e) := .text rfl (by decide) he
  exact ⟨⟨_, hrefused⟩, (refusal_changes_no_file System.idle (Shell.startIn ⟨[]⟩) ""
    (Redirection.ofEcho "\\x4" .truncate "f") "/" _).2.1 _ hrefused⟩

end Dispatch
end LineShell
