import LineShell.Proofs.EchoText
import LineShell.Proofs.LossyText

/-!
# Files as logs

Redirections that are applied one after another write a log for every file. What a file holds is
what it held before them, and after that, one line each, the texts that were written to it; a text
that replaces begins the log anew. All other steps leave the file alone: those that write elsewhere,
those that read, and those that fail. No step changes where a path leads, so all spellings that lead
to one file share its log. A device takes every line and keeps none.
-/
namespace LineShell

theorem Path.isAbsolute_join {base : Path} (h : isAbsolute base = true) (path : Path) :
    isAbsolute (join base path) = true := by
  have hhead : ∀ tail : Path, isAbsolute (base ++ tail) = true := by
    intro tail
    rw [isAbsolute, beq_iff_eq] at h ⊢
    rw [List.head?_append, h]
    rfl
  rw [join]
  split_ifs with hpath
  · exact hpath
  · split
    · next hnil =>
      rw [List.getLast?_eq_none_iff] at hnil
      simp [isAbsolute, hnil] at h
    · exact hhead path
    · exact hhead _

/-- A name spelled out from the root stands for the same path. -/
theorem Path.resolve_of_encode_eq {cwd : Path} (h : isAbsolute cwd = true) {name full : String}
    (hfull : Utf8.encode full = resolve cwd name) : resolve cwd full = resolve cwd name := by
  have habs : isAbsolute (resolve cwd name) = true := isAbsolute_join h (Utf8.encode name)
  rw [resolve, hfull, join, if_pos habs]

namespace Redirection

variable {r : Redirection} {cwd : Path} {fs : FileSystem} {place : Place} {text : String}

/-- Where writing to the target of a redirection arrives. -/
def sink? (r : Redirection) (cwd : Path) (fs : FileSystem) : Option Sink :=
  fs.sink? (Path.resolve cwd r.target)

structure IsWriteOf (r : Redirection) (text : String) : Prop where
  program : r.command.program = "echo"
  mode : r.mode ≠ .readFrom
  decoded : unescape r.text = .ok text

structure IsRead (r : Redirection) : Prop where
  program : r.command.program = "echo"
  mode : r.mode = .readFrom

/-- What a file holds after a redirection has written to it, given what it held if it was there. -/
def written (r : Redirection) (old : Option Bytes) : Option Bytes :=
  match unescape r.text with
  | .ok text => some (kept r.mode (old.getD []) ++ Utf8.encode (text ++ "\n"))
  | .error _ => old

structure WritesTo (r : Redirection) (cwd : Path) (fs : FileSystem) (place : Place) : Prop where
  mode : r.mode ≠ .readFrom
  succeeds : (r.apply cwd fs).1 = .ok none
  target : r.sink? cwd fs = some (.file place)

theorem writesTo_iff : r.WritesTo cwd fs place ↔ r.mode ≠ .readFrom ∧
    (r.apply cwd fs).1 = .ok none ∧ r.sink? cwd fs = some (.file place) :=
  ⟨fun h => ⟨h.mode, h.succeeds, h.target⟩, fun h => ⟨h.1, h.2.1, h.2.2⟩⟩

instance (r : Redirection) (cwd : Path) (fs : FileSystem) (place : Place) :
    Decidable (r.WritesTo cwd fs place) :=
  decidable_of_iff _ writesTo_iff.symm

/-- The files after redirections have been applied in a directory, one after another. -/
def applyAll (cwd : Path) : List Redirection → FileSystem → FileSystem
  | [], fs => fs
  | r :: steps, fs => applyAll cwd steps (r.apply cwd fs).2

/-- The redirections among some that succeed in writing to the file at a place, when all of them
are applied one after another. -/
def log (cwd : Path) (place : Place) : List Redirection → FileSystem → List Redirection
  | [], _ => []
  | r :: steps, fs =>
    if r.WritesTo cwd fs place then r :: log cwd place steps (r.apply cwd fs).2
    else log cwd place steps (r.apply cwd fs).2

/-! ## One step -/

theorem apply_of_program_ne (h : r.command.program ≠ "echo") :
    r.apply cwd fs = (.error (.unsupportedRedirection r.command.program), fs) := by
  rw [apply.eq_def, if_pos (bne_iff_ne.2 h)]

theorem IsRead.apply_eq (h : r.IsRead) : r.apply cwd fs =
    match fs.readText (Path.resolve cwd r.target) with
    | .ok held => (.ok (some (Text.trimEnd held)), fs)
    | .error e =>
      if e.isNotFound then (.error (.pathNotFound "Input file" r.target), fs)
      else (.error (.io e), fs) := by
  have hecho : (r.command.program != "echo") = false := by rw [h.program]; rfl
  have heq := apply.eq_def r cwd fs
  rw [hecho, if_neg Bool.false_ne_true, h.mode] at heq
  exact heq

/-- What is read is what can be read at the path, without the blanks at its end. -/
theorem IsRead.apply_eq_ok_iff (h : r.IsRead) : (r.apply cwd fs).1 = .ok (some text) ↔
    ∃ held, fs.readText (Path.resolve cwd r.target) = .ok held ∧ text = Text.trimEnd held := by
  rw [h.apply_eq]
  cases fs.readText (Path.resolve cwd r.target) with
  | ok held => simp [eq_comm]
  | error e =>
    simp only [reduceCtorEq, false_and, exists_false, iff_false]
    split_ifs <;> simp

/-- Reading changes no file. -/
theorem IsRead.apply_files (h : r.IsRead) : (r.apply cwd fs).2 = fs := by
  rw [h.apply_eq]
  cases fs.readText (Path.resolve cwd r.target) with
  | ok held => rfl
  | error e =>
    simp only
    split_ifs <;> rfl

namespace IsWriteOf

variable (h : r.IsWriteOf text)
include h

/-- A file that cannot be opened is the end of it. -/
theorem apply_of_update_error {e : IoError}
    (hupdate : fs.update (Path.resolve cwd r.target)
      (fun old => kept r.mode old ++ Utf8.encode (text ++ "\n")) = (.error e, fs)) :
    r.apply cwd fs = (.error (.io e), fs) := by
  have hecho : (r.command.program != "echo") = false := by rw [h.program]; rfl
  have hwrite := (write_eq fs (Path.resolve cwd r.target) r.mode text).trans hupdate
  rw [apply.eq_def, hecho, if_neg Bool.false_ne_true]
  cases hmode : r.mode with
  | readFrom => exact absurd hmode h.mode
  | _ =>
    rw [hmode] at hwrite
    simp only [h.decoded, hwrite]

/-- A target that cannot be opened is refused, and nothing changes. -/
theorem apply_of_none (htarget : r.sink? cwd fs = none) :
    ∃ e, r.apply cwd fs = (.error (.io e), fs) := by
  have hopen : ¬ fs.CanOpen (Path.resolve cwd r.target) := by
    rw [FileSystem.canOpen_iff]
    simpa [sink?] using htarget
  obtain ⟨e, hupdate⟩ := FileSystem.update_of_not_canOpen hopen
    fun old => kept r.mode old ++ Utf8.encode (text ++ "\n")
  exact ⟨e, h.apply_of_update_error hupdate⟩

/-- A text that goes to a file is held by it, and every other file is as before. -/
theorem apply_of_file (htarget : r.sink? cwd fs = some (.file place)) :
    r.WritesTo cwd fs place ∧
      (r.apply cwd fs).2.contentAt place = r.written (fs.contentAt place) ∧
      FileSystem.SameButFile place fs (r.apply cwd fs).2 := by
  obtain ⟨after, hupdate, hcontent, hsame⟩ := FileSystem.update_of_sink?_eq_file htarget
    fun old => kept r.mode old ++ Utf8.encode (text ++ "\n")
  have happly := apply_of_unescape_ok h.program h.mode h.decoded hupdate
  rw [happly, written, h.decoded]
  exact ⟨⟨h.mode, by rw [happly], htarget⟩, hcontent, hsame⟩

/-- A device takes a text and keeps nothing. -/
theorem apply_of_device (htarget : r.sink? cwd fs = some .device) :
    r.apply cwd fs = (.ok none, fs) :=
  apply_of_unescape_ok h.program h.mode h.decoded
    (FileSystem.update_of_leadsToDevice (FileSystem.sink?_eq_device_iff.1 htarget) _)

end IsWriteOf

/-- A redirection writes to one file, or changes none. -/
theorem apply_cases (r : Redirection) (cwd : Path) (fs : FileSystem) :
    (∃ place, r.WritesTo cwd fs place ∧
      (r.apply cwd fs).2.contentAt place = r.written (fs.contentAt place) ∧
      FileSystem.SameButFile place fs (r.apply cwd fs).2) ∨
    ((∀ place, ¬ r.WritesTo cwd fs place) ∧ (r.apply cwd fs).2 = fs) := by
  -- a step that fails writes to no file
  have failed {e : ShellError} (happly : r.apply cwd fs = (.error e, fs)) :
      (∀ place, ¬ r.WritesTo cwd fs place) ∧ (r.apply cwd fs).2 = fs := by
    refine ⟨fun place h => ?_, by rw [happly]⟩
    simpa [happly] using h.succeeds
  by_cases hprogram : r.command.program = "echo"
  case neg => exact .inr (failed (apply_of_program_ne hprogram))
  by_cases hmode : r.mode = .readFrom
  case pos => exact .inr ⟨fun place h => h.mode hmode, IsRead.apply_files ⟨hprogram, hmode⟩⟩
  cases htext : unescape r.text with
  | error e => exact .inr (failed (apply_of_unescape_error hprogram hmode htext))
  | ok text =>
    have hwrite : r.IsWriteOf text := ⟨hprogram, hmode, htext⟩
    cases htarget : r.sink? cwd fs with
    | none =>
      obtain ⟨e, happly⟩ := hwrite.apply_of_none htarget
      exact .inr (failed happly)
    | some s =>
      cases s with
      | file place => exact .inl ⟨place, hwrite.apply_of_file htarget⟩
      | device =>
        refine .inr ⟨fun place h => ?_, by rw [hwrite.apply_of_device htarget]⟩
        simpa [htarget] using h.target

/-- What a step does to the file at a place. -/
theorem contentAt_apply (r : Redirection) (cwd : Path) (fs : FileSystem) (place : Place) :
    (r.apply cwd fs).2.contentAt place =
      if r.WritesTo cwd fs place then r.written (fs.contentAt place) else fs.contentAt place := by
  obtain ⟨p, hwrites, hcontent, hsame⟩ | ⟨hnone, hfiles⟩ := apply_cases r cwd fs
  · by_cases hp : place = p
    · subst hp
      rw [if_pos hwrites, hcontent]
    · have hother : ¬ r.WritesTo cwd fs place := by
        intro h
        have htarget := h.target
        rw [hwrites.target, Option.some.injEq, Sink.file.injEq] at htarget
        exact hp htarget.symm
      rw [if_neg hother, hsame.contentAt_eq hp]
  · rw [if_neg (hnone place), hfiles]

/-- No step changes where a path leads. -/
theorem sink?_apply (r : Redirection) (cwd : Path) (fs : FileSystem) (path : Path) :
    (r.apply cwd fs).2.sink? path = fs.sink? path := by
  obtain ⟨p, -, -, hsame⟩ | ⟨-, hfiles⟩ := apply_cases r cwd fs
  · exact hsame.sink?_eq path
  · rw [hfiles]

/-! ## Many steps -/

theorem contentAt_applyAll (cwd : Path) (place : Place) (steps : List Redirection)
    (fs : FileSystem) : (applyAll cwd steps fs).contentAt place =
      (log cwd place steps fs).foldl (fun old r => r.written old) (fs.contentAt place) := by
  induction steps generalizing fs with
  | nil => rfl
  | cons r steps ih =>
    rw [applyAll, ih, contentAt_apply, log]
    split_ifs <;> rfl

theorem sink?_applyAll (cwd : Path) (steps : List Redirection) (fs : FileSystem) (path : Path) :
    (applyAll cwd steps fs).sink? path = fs.sink? path := by
  induction steps generalizing fs with
  | nil => rfl
  | cons r steps ih => rw [applyAll, ih, sink?_apply]

/-- What is read after some steps, given where the target led before them. -/
theorem IsRead.apply_applyAll_iff (h : r.IsRead) (cwd : Path) (steps : List Redirection)
    (fs : FileSystem) : (r.apply cwd (applyAll cwd steps fs)).1 = .ok (some text) ↔
      (∃ place held, r.sink? cwd fs = some (.file place) ∧
        ((applyAll cwd steps fs).contentAt place).bind Utf8.decode? = some held ∧
        text = Text.trimEnd held) ∨
      (r.sink? cwd fs = some .device ∧ text = "") := by
  have hnothing : Text.trimEnd "" = "" := by decide
  rw [h.apply_eq_ok_iff]
  simp only [FileSystem.readText_eq_ok_iff, sink?_applyAll, sink?]
  constructor
  · rintro ⟨held, ⟨place, hsink, hheld⟩ | ⟨hsink, rfl⟩, rfl⟩
    · exact .inl ⟨place, held, hsink, hheld, rfl⟩
    · exact .inr ⟨hsink, hnothing⟩
  · rintro (⟨place, held, hsink, hheld, rfl⟩ | ⟨hsink, rfl⟩)
    · exact ⟨held, .inl ⟨place, hsink, hheld⟩, rfl⟩
    · exact ⟨"", .inr ⟨hsink, rfl⟩, hnothing.symm⟩

/-! ## Lines -/

/-- Steps that write the lines of the file at a place anew: the first replaces what was there, and
the others append. -/
structure WritesLines (cwd : Path) (fs : FileSystem) (place : Place) (steps : List Redirection)
    (texts : List String) : Prop where
  modes : ∃ n, steps.map Redirection.mode = .truncate :: List.replicate n .append
  writes : List.Forall₂ IsWriteOf steps texts
  target : ∀ r ∈ steps, r.sink? cwd fs = some (.file place)

/-- Texts that are appended to a file come after its lines, in order. -/
theorem contentAt_of_appends {steps : List Redirection} {first : String} {texts : List String}
    (hmode : ∀ r ∈ steps, r.mode = .append) (hwrites : List.Forall₂ IsWriteOf steps texts)
    (htarget : ∀ r ∈ steps, r.sink? cwd fs = some (.file place))
    (hfirst : fs.contentAt place = some (Utf8.encode (first ++ "\n"))) :
    (applyAll cwd steps fs).contentAt place =
      some (Utf8.encode ("\n".intercalate (first :: texts) ++ "\n")) := by
  induction hwrites generalizing fs first with
  | nil => rw [applyAll, hfirst, String.intercalate_singleton]
  | @cons r text steps texts hwrite _ ih =>
    rw [List.forall_mem_cons] at hmode htarget
    have hcontent : (r.apply cwd fs).2.contentAt place =
        some (Utf8.encode (first ++ "\n" ++ text ++ "\n")) := by
      rw [(hwrite.apply_of_file htarget.1).2.1, hfirst, written, hwrite.decoded, hmode.1]
      simp [kept, Utf8.encode_append]
    have htargets : ∀ s ∈ steps, s.sink? cwd (r.apply cwd fs).2 = some (.file place) :=
      fun s hs => (sink?_apply r cwd fs _).trans (htarget.2 s hs)
    rw [applyAll, ih hmode.2 htargets hcontent]
    cases texts <;> simp [String.intercalate_cons_cons, String.append_assoc]

theorem WritesLines.contentAt_eq {steps : List Redirection} {texts : List String}
    (h : WritesLines cwd fs place steps texts) : (applyAll cwd steps fs).contentAt place =
      some (Utf8.encode ("\n".intercalate texts ++ "\n")) := by
  obtain ⟨⟨n, hmodes⟩, hwrites, htarget⟩ := h
  cases hwrites with
  | nil => simp at hmodes
  | @cons r text steps texts hwrite hwrites =>
    rw [List.forall_mem_cons] at htarget
    rw [List.map_cons, List.cons.injEq, List.eq_replicate_iff, List.forall_mem_map] at hmodes
    obtain ⟨hreplaces, -, hmode⟩ := hmodes
    apply contentAt_of_appends hmode hwrites
    · exact fun s hs => (sink?_apply r cwd fs _).trans (htarget.2 s hs)
    · rw [(hwrite.apply_of_file htarget.1).2.1, written, hwrite.decoded, hreplaces]
      rfl

/-- What holds of `files` when redirections that are applied in a directory one after another have
made them of `fs`. The steps `r` are those that may come next. -/
structure KeepsLogs (cwd : Path) (steps : List Redirection) (fs files : FileSystem) : Prop where
  /-- A file holds what it held, folded over the steps that succeeded in writing to it. -/
  content : ∀ place, files.contentAt place =
    (log cwd place steps fs).foldl (fun old r => r.written old) (fs.contentAt place)
  /-- Every path leads where it led at the start. -/
  target : ∀ path, files.sink? path = fs.sink? path
  /-- A name that is spelled out from the root leads where the name does. -/
  spelling : Path.isAbsolute cwd = true → ∀ name full, Utf8.encode full = Path.resolve cwd name →
    fs.sink? (Path.resolve cwd full) = fs.sink? (Path.resolve cwd name)
  /-- A text that can be decoded is written to every file. -/
  writes : ∀ (r : Redirection) text place, r.IsWriteOf text →
    r.sink? cwd fs = some (.file place) → r.WritesTo cwd files place
  /-- A step that writes to no file changes nothing at all. -/
  idle : ∀ r : Redirection, (∀ place, ¬ r.WritesTo cwd files place) →
    (r.apply cwd files).2 = files
  /-- A device takes every text and keeps none. -/
  device : ∀ (r : Redirection) text, r.IsWriteOf text → r.sink? cwd fs = some .device →
    r.apply cwd files = (.ok none, files)
  /-- What is read is what the file holds by then, without the blanks at its end; a device gives
  nothing. -/
  reads : ∀ (r : Redirection) text, r.IsRead → ((r.apply cwd files).1 = .ok (some text) ↔
    (∃ place held, r.sink? cwd fs = some (.file place) ∧
      (files.contentAt place).bind Utf8.decode? = some held ∧ text = Text.trimEnd held) ∨
    (r.sink? cwd fs = some .device ∧ text = ""))
  /-- The lines of a file that were written are read back in order. -/
  readBack : ∀ place texts (r : Redirection), WritesLines cwd fs place steps texts → r.IsRead →
    r.sink? cwd fs = some (.file place) →
    (r.apply cwd files).1 = .ok (some (Text.trimEnd ("\n".intercalate texts)))

/-- Redirections that are applied one after another write a log for every file, and what is read is
what the log holds by then. -/
theorem keepsLogs (cwd : Path) (steps : List Redirection) (fs : FileSystem) :
    KeepsLogs cwd steps fs (applyAll cwd steps fs) where
  content place := contentAt_applyAll cwd place steps fs
  target := sink?_applyAll cwd steps fs
  spelling hcwd name full hfull := by rw [Path.resolve_of_encode_eq hcwd hfull]
  writes r text place hwrite htarget :=
    (hwrite.apply_of_file ((sink?_applyAll cwd steps fs _).trans htarget)).1
  idle r h := by
    obtain ⟨place, hwrites, -⟩ | ⟨-, hfiles⟩ := apply_cases r cwd (applyAll cwd steps fs)
    · exact absurd hwrites (h place)
    · exact hfiles
  device r text hwrite htarget :=
    hwrite.apply_of_device ((sink?_applyAll cwd steps fs _).trans htarget)
  reads r text hread := hread.apply_applyAll_iff cwd steps fs
  readBack place texts r hlines hread htarget := by
    let held := "\n".intercalate texts ++ "\n"
    refine (hread.apply_applyAll_iff cwd steps fs).2 (.inl ⟨place, held, htarget, ?_, ?_⟩)
    · rw [hlines.contentAt_eq, Option.bind_some, Utf8.decode?_encode]
    · rw [Text.trimEnd_append_newline]

def ofEcho (text : String) (mode : RedirectMode) (target : String) : Redirection :=
  ⟨⟨"echo", [text]⟩, text, mode, target⟩

theorem keepsLogs_of_two_lines :
    ((ofEcho "" .readFrom "f").apply "/" (applyAll "/"
      [ofEcho "a" .truncate "f", ofEcho "b" .append "/f"] ⟨[]⟩)).1 = .ok (some "a\nb") := by
  have hpath : Path.resolve "/" "f" = "/f" ∧ Path.resolve "/" "/f" = "/f" := by decide
  have hsink : (⟨[]⟩ : FileSystem).sink? "/f" = some (.file ["f"]) :=
    FileSystem.sink?_eq_some_iff.2 ⟨_, FileSystem.locate_new, rfl⟩
  have htrim : "a\nb" = Text.trimEnd ("\n".intercalate ["a", "b"]) := by decide
  have hlines : WritesLines "/" ⟨[]⟩ ["f"] [ofEcho "a" .truncate "f", ofEcho "b" .append "/f"]
      ["a", "b"] := by
    refine ⟨⟨1, rfl⟩, ?_, by simp [sink?, ofEcho, hpath, hsink]⟩
    exact .cons ⟨rfl, by decide, by decide +kernel⟩ (.cons ⟨rfl, by decide, by decide +kernel⟩ .nil)
  rw [htrim]
  apply (keepsLogs "/" _ ⟨[]⟩).readBack ["f"] _ _ hlines ⟨rfl, rfl⟩
  simp [sink?, ofEcho, hpath, hsink]

/-- What goes to a device is not read back. -/
theorem not_read_back_device :
    (ofEcho "x" .truncate "/dev/null").IsWriteOf "x" ∧
      (ofEcho "x" .truncate "/dev/null").apply "/" .withDevice = (.ok none, .withDevice) ∧
      ((ofEcho "" .readFrom "/dev/null").apply "/" (applyAll "/"
        [ofEcho "x" .truncate "/dev/null"] .withDevice)).1 ≠
          .ok (some (Text.trimEnd ("\n".intercalate ["x"]))) := by
  have hpath : Path.resolve "/" "/dev/null" = "/dev/null" := by decide
  have hwrite : (ofEcho "x" .truncate "/dev/null").IsWriteOf "x" :=
    ⟨rfl, by decide, by decide +kernel⟩
  have hsink (text : String) (mode : RedirectMode) :
      (ofEcho text mode "/dev/null").sink? "/" .withDevice = some .device := by
    rw [sink?, ofEcho, hpath]
    exact FileSystem.sink?_eq_device_iff.2 FileSystem.leadsToDevice_withDevice
  have htrim : Text.trimEnd ("\n".intercalate ["x"]) = "x" := by decide
  refine ⟨hwrite, hwrite.apply_of_device (hsink _ _), fun h => ?_⟩
  obtain ⟨place, -, hfile, -⟩ | ⟨-, hnothing⟩ := (IsRead.apply_applyAll_iff ⟨rfl, rfl⟩ _ _ _).1 h
  · rw [hsink] at hfile
    simp at hfile
  · rw [htrim] at hnothing
    exact absurd hnothing (by decide)

end Redirection
end LineShell
