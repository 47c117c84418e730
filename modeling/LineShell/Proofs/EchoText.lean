import LineShell.Proofs.EchoLine
import LineShell.Proofs.Escaping
import LineShell.Proofs.Idle
import LineShell.Proofs.Sinks

/-!
# The text that is echoed

Any text can be written with escapes so that echo reports it and stores it in a file as it is.
Words are decoded one by one for the terminal, but together for a file. The two agree unless a word
before the last ends inside of an escape with a brace.
-/
namespace LineShell

namespace Escape

/-- A text as it is written so that it decodes to itself. -/
def written (text : String) : String :=
  String.ofList (encode text.toList)

theorem quote_notMem_written (text : String) : '"' ∉ (written text).toList := by
  rw [written, String.toList_ofList]
  exact quote_notMem_encode _

theorem toOption_unescape (text : String) :
    (unescape text).toOption = (decode text.toList).toOption.map String.ofList := by
  rw [unescape]
  cases decode text.toList <;> rfl

@[simp] theorem unescape_written (text : String) : unescape (written text) = .ok text := by
  rw [unescape, written, String.toList_ofList, decode_encode]
  exact congrArg Except.ok String.ofList_toList

/-- Two texts with a space between them are decoded one by one unless a brace is open after the
first. -/
theorem toOption_unescape_append_space (a b : String) :
    (unescape (a ++ " " ++ b)).toOption =
      if leavesOpen a.toList then none
      else (unescape a).toOption.bind fun s => (unescape b).toOption.map (s ++ " " ++ ·) := by
  have hlist : (a ++ " " ++ b).toList = a.toList ++ ' ' :: b.toList := by simp
  rw [toOption_unescape, toOption_unescape, toOption_unescape, hlist, toOption_decode_append_space,
    joined]
  split_ifs
  · rfl
  · cases (decode a.toList).toOption <;> cases (decode b.toList).toOption <;>
      simp [String.append_assoc]

theorem toOption_unescapeAll_cons (w : String) (words : List String) :
    (Builtin.unescapeAll (w :: words)).toOption =
      (unescape w).toOption.bind fun t => (Builtin.unescapeAll words).toOption.map (t :: ·) := by
  rw [Builtin.unescapeAll]
  cases unescape w <;> cases Builtin.unescapeAll words <;> rfl

theorem length_of_unescapeAll {words texts : List String}
    (h : (Builtin.unescapeAll words).toOption = some texts) : texts.length = words.length := by
  induction words generalizing texts with
  | nil => simp [Builtin.unescapeAll, Except.toOption] at h; simp [← h]
  | cons w words ih =>
    simp only [toOption_unescapeAll_cons, Option.bind_eq_some_iff, Option.map_eq_some_iff] at h
    obtain ⟨t, -, ts, hts, rfl⟩ := h
    rw [List.length_cons, List.length_cons, ih hts]

/-- Words with spaces between them are decoded one by one unless a brace is open after one of them
that is not the last. -/
theorem toOption_unescape_intercalate {words : List String} (hne : words ≠ []) :
    (unescape (" ".intercalate words)).toOption =
      if ∀ w ∈ words.dropLast, leavesOpen w.toList = false then
        (Builtin.unescapeAll words).toOption.map (" ".intercalate ·)
      else none := by
  induction words with
  | nil => contradiction
  | cons w words ih =>
    cases words with
    | nil => cases h : unescape w <;> simp [Builtin.unescapeAll, h, Except.map, Except.toOption]
    | cons v words =>
      rw [String.intercalate_cons_cons, toOption_unescape_append_space,
        ih (List.cons_ne_nil v words), toOption_unescapeAll_cons w (v :: words),
        List.dropLast_cons_cons]
      simp only [List.forall_mem_cons]
      by_cases hopen : leavesOpen w.toList = true
      · simp [hopen]
      by_cases hrest : ∀ u ∈ (v :: words).dropLast, leavesOpen u.toList = false
      · rw [if_neg hopen, if_pos hrest, if_pos ⟨by simpa using hopen, hrest⟩]
        cases unescape w with
        | error e => rfl
        | ok t =>
          cases hts : (Builtin.unescapeAll (v :: words)).toOption with
          | none => rfl
          | some texts =>
            have hlen := length_of_unescapeAll hts
            obtain ⟨u, us, rfl⟩ := List.exists_cons_of_length_pos (by rw [hlen]; simp)
            simp [Except.toOption, String.intercalate_cons_cons]
      · rw [if_neg hopen, if_neg hrest, if_neg (fun h => hrest h.2)]
        cases unescape w <;> rfl

/-- Words of which one cannot be decoded, or of which one before the last leaves a brace open,
cannot be decoded together. -/
theorem exists_unescape_intercalate_eq_error {words : List String} (hne : words ≠ [])
    (h : (∃ e, Builtin.unescapeAll words = .error e) ∨
      ¬ ∀ w ∈ words.dropLast, leavesOpen w.toList = false) :
    ∃ e, unescape (" ".intercalate words) = .error e := by
  have hnone : (unescape (" ".intercalate words)).toOption = none := by
    rw [toOption_unescape_intercalate hne]
    obtain ⟨e, he⟩ | hopen := h
    · rw [he]
      exact ite_self none
    · rw [if_neg hopen]
  cases hjoined : unescape (" ".intercalate words) with
  | error e => exact ⟨e, rfl⟩
  | ok text => simp [hjoined, Except.toOption] at hnone

/-- What words come to together when no brace is open before the last. -/
theorem unescape_intercalate_of_ok {words texts : List String} (hne : words ≠ [])
    (h : Builtin.unescapeAll words = .ok texts)
    (hclosed : ∀ w ∈ words.dropLast, leavesOpen w.toList = false) :
    unescape (" ".intercalate words) = .ok (" ".intercalate texts) := by
  have hsome := toOption_unescape_intercalate hne
  rw [if_pos hclosed, h] at hsome
  cases hjoined : unescape (" ".intercalate words) with
  | error e => simp [hjoined, Except.toOption] at hsome
  | ok text => simpa [hjoined, Except.toOption] using hsome

end Escape

namespace Redirection

theorem apply_of_unescape_error {r : Redirection} {cwd : Path} {fs : FileSystem} {e : EscapeError}
    (hprogram : r.command.program = "echo") (hmode : r.mode ≠ .readFrom)
    (he : unescape r.text = .error e) : r.apply cwd fs = (.error (.escape e), fs) := by
  have hecho : (r.command.program != "echo") = false := by rw [hprogram]; rfl
  rw [apply.eq_def, hecho, if_neg Bool.false_ne_true]
  cases hr : r.mode with
  | readFrom => contradiction
  | _ => simp only [he]

theorem apply_of_unescape_ok {r : Redirection} {cwd : Path} {fs files : FileSystem} {text : String}
    (hprogram : r.command.program = "echo") (hmode : r.mode ≠ .readFrom)
    (htext : unescape r.text = .ok text)
    (hupdate : fs.update (Path.resolve cwd r.target)
      (fun old => kept r.mode old ++ Utf8.encode (text ++ "\n")) = (.ok (), files)) :
    r.apply cwd fs = (.ok none, files) := by
  have hecho : (r.command.program != "echo") = false := by rw [hprogram]; rfl
  have hwrite := (write_eq fs (Path.resolve cwd r.target) r.mode text).trans hupdate
  rw [apply.eq_def, hecho, if_neg Bool.false_ne_true]
  cases hr : r.mode with
  | readFrom => contradiction
  | _ =>
    rw [hr] at hwrite
    simp only [htext, hwrite]

theorem apply_readFrom {r : Redirection} {cwd : Path} {fs : FileSystem} {text : String}
    (hprogram : r.command.program = "echo") (hmode : r.mode = .readFrom)
    (hread : fs.read (Path.resolve cwd r.target) = .ok (Utf8.encode text)) :
    r.apply cwd fs = (.ok (some (Text.trimEnd text)), fs) := by
  have hecho : (r.command.program != "echo") = false := by rw [hprogram]; rfl
  have htext : fs.readText (Path.resolve cwd r.target) = .ok text := by
    rw [FileSystem.readText, hread]
    simp [bind, Except.bind, Utf8.decode?_encode]
  rw [apply.eq_def, hecho, if_neg Bool.false_ne_true, hmode]
  simp only [htext]

end Redirection

theorem Text.trimEnd_append_newline (text : String) : trimEnd (text ++ "\n") = trimEnd text := by
  have hblank : AllBlank ['\n'] := by simp [AllBlank]; decide
  have hlist : (text ++ "\n").toList = text.toList ++ ['\n'] := by simp
  rw [trimEnd, hlist, trimEndChars_append_of_allBlank _ hblank, trimEnd]

def Shell.pathOf {σ : Type} (shell : Shell σ) (name : String) : Path :=
  Path.resolve shell.session.workingDir name

namespace Dispatch

variable {σ : Type} {sys : System σ} {shell : Shell σ} {words : List String} {target : String}
  {mode : RedirectMode}

def targetPath (shell : Shell σ) (target : String) : Path :=
  shell.pathOf (Plan.bareText target.toList)

/-- A text that cannot be decoded is refused, and nothing changes. -/
theorem outcome_of_unescape_error (hq : ∀ w ∈ words, '"' ∉ w.toList) (ht : IsTarget target)
    (hmode : mode ≠ .readFrom) {e : EscapeError}
    (he : unescape (" ".intercalate words) = .error e) :
    outcome sys (redirectedEcho words mode target) shell = (.error (.escape e), shell) := by
  let r : Redirection :=
    ⟨⟨"echo", words⟩, " ".intercalate words, mode, Plan.bareText target.toList⟩
  have happly : r.apply shell.session.workingDir shell.world.files =
      (.error (.escape e), shell.world.files) :=
    Redirection.apply_of_unescape_error rfl hmode he
  rw [outcome_redirectedEcho sys shell mode hq ht, Plan.execute, happly]
  rfl

/-- A text that can be decoded is written to what can be opened. -/
theorem outcome_of_unescape_ok (hq : ∀ w ∈ words, '"' ∉ w.toList) (ht : IsTarget target)
    (hmode : mode ≠ .readFrom) {text : String}
    (htext : unescape (" ".intercalate words) = .ok text) {files : FileSystem}
    (hupdate : shell.world.files.update (targetPath shell target)
      (fun old => Redirection.kept mode old ++ Utf8.encode (text ++ "\n")) = (.ok (), files)) :
    outcome sys (redirectedEcho words mode target) shell =
      (.ok .silent, { shell with world := { shell.world with files } }) := by
  let r : Redirection :=
    ⟨⟨"echo", words⟩, " ".intercalate words, mode, Plan.bareText target.toList⟩
  have happly : r.apply shell.session.workingDir shell.world.files = (.ok none, files) :=
    Redirection.apply_of_unescape_ok rfl hmode htext hupdate
  rw [outcome_redirectedEcho sys shell mode hq ht, Plan.execute, happly]
  rfl

/-- What can be opened and is no device holds the text afterwards, and nothing else changes. -/
theorem outcome_of_file (hq : ∀ w ∈ words, '"' ∉ w.toList) (ht : IsTarget target)
    (hmode : mode ≠ .readFrom) {text : String}
    (htext : unescape (" ".intercalate words) = .ok text)
    (hopen : shell.world.files.CanOpen (targetPath shell target))
    (hdevice : shell.world.files.leadsToDevice (targetPath shell target) = false) :
    ∃ place files, outcome sys (redirectedEcho words mode target) shell =
        (.ok .silent, { shell with world := { shell.world with files } }) ∧
      files.read (targetPath shell target) =
        .ok (Redirection.kept mode (shell.world.files.content (targetPath shell target)) ++
          Utf8.encode (text ++ "\n")) ∧
      FileSystem.SameBut place shell.world.files files := by
  obtain ⟨place, files, hupdate, hread, hsame⟩ := FileSystem.read_update hopen hdevice
    fun old => Redirection.kept mode old ++ Utf8.encode (text ++ "\n")
  exact ⟨place, files, outcome_of_unescape_ok hq ht hmode htext hupdate, hread, hsame⟩

/-- What is written to a device is gone. -/
theorem outcome_of_device (hq : ∀ w ∈ words, '"' ∉ w.toList) (ht : IsTarget target)
    (hmode : mode ≠ .readFrom) {text : String}
    (htext : unescape (" ".intercalate words) = .ok text)
    (hdevice : shell.world.files.leadsToDevice (targetPath shell target) = true) :
    outcome sys (redirectedEcho words mode target) shell = (.ok .silent, shell) :=
  outcome_of_unescape_ok hq ht hmode htext (FileSystem.update_of_leadsToDevice hdevice _)

/-- A file that holds a text is shown without the blanks at its end. -/
theorem outcome_readFrom (ht : IsTarget target) {text : String}
    (hread : shell.world.files.read (targetPath shell target) = .ok (Utf8.encode text)) :
    outcome sys (redirectedEcho [] .readFrom target) shell =
      (.ok (.text (Text.trimEnd text)), shell) := by
  let r : Redirection := ⟨⟨"echo", []⟩, " ".intercalate [], .readFrom, Plan.bareText target.toList⟩
  have happly : r.apply shell.session.workingDir shell.world.files =
      (.ok (some (Text.trimEnd text)), shell.world.files) :=
    Redirection.apply_readFrom rfl rfl hread
  rw [outcome_redirectedEcho sys shell .readFrom (by simp) ht, Plan.execute, happly]
  rfl

end Dispatch
end LineShell
