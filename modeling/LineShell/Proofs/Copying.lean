import LineShell.Proofs.LossyText
import LineShell.Proofs.Spreading

/-!
# Files that are copied

A copy keeps what every file holds, but for those that the target leads to, or that are found below
it. A copy to something new damages nothing. A file that is copied is read back at the target,
unless the target leads to the file itself: then it has been emptied before it was read, and what it
held is lost.
-/
namespace LineShell.Builtin
open FileSystem (besideDanglingLink proper_besideDanglingLink locate_fileBesideLink
  resolve_fileBesideLink locate_danglingLink)
variable {cwd : Path} {args : List String} {fs : FileSystem} {source target : Path}
  {result : FileReport}

/-- What comes of copying a file: nothing changes unless the target can be opened, and the target
holds what the file held unless it leads to that file, or to a device. -/
inductive CopiesFile (place : Place) (content : Bytes) (target : Path) (fs : FileSystem) :
    FileReport → Prop
  | refused {e : ShellError} : fs.sink? target = none →
      CopiesFile place content target fs (.error e, fs)
  | device : fs.sink? target = some .device →
      CopiesFile place content target fs (.ok (.text ("File copied to " ++ Utf8.lossy target)), fs)
  | written {dest : Place} {after : FileSystem} : fs.sink? target = some (.file dest) →
      FileSystem.SameButFile dest fs after →
      after.read target = .ok (if dest = place then [] else content) →
      CopiesFile place content target fs
        (.ok (.text ("File copied to " ++ Utf8.lossy target)), after)

/-- What becomes of the files when a source is copied to a target. The content of every file is
kept, except where the target or a path below it leads, and without exception if the target is new
in the end, or was missing from a directory at first. -/
structure Copies (source target : Path) (fs : FileSystem) (result : FileReport) : Prop where
  spreads : FileSystem.Spreads target fs result.2
  new : ∀ place node, result.2.resolve target = .ok (place, node) → fs.node? place = none →
    ∀ q content, fs.contentAt q = some content → result.2.contentAt q = some content
  missing : ∀ dir name slash, fs.locate .follow target = .ok (.missing dir name slash) →
    ∀ q content, fs.contentAt q = some content → result.2.contentAt q = some content
  file : ∀ place content x, fs.resolve source = .ok (place, .file content x) →
    CopiesFile place content target fs result

theorem copies_of_spreads (h : FileSystem.Spreads target fs result.2)
    (hfile : ∀ place content x, fs.resolve source = .ok (place, .file content x) →
      CopiesFile place content target fs result) : Copies source target fs result where
  spreads := h
  new place node htarget hnew q content hq := by
    obtain ⟨last, slash, hlocate, -⟩ := FileSystem.resolve_eq_ok_iff.1 htarget
    exact h.contentAt_of_new hlocate hnew hq
  missing dir name slash hmissing q content hq := h.contentAt_of_missing hmissing hq
  file := hfile

theorem spreads_reportChange {text : String} {change : FileSystem.Change Unit}
    (h : FileSystem.Spreads target fs change.2) :
    FileSystem.Spreads target fs (reportChange text change).2 := by
  obtain ⟨e | ⟨⟩, after⟩ := change
  · rwa [reportChange_error]
  · rwa [reportChange_ok]

theorem copies_copyFile (hfs : fs.Proper) (source target : Path) :
    Copies source target fs
      (reportChange ("File copied to " ++ Utf8.lossy target) (fs.copyFile source target)) := by
  apply copies_of_spreads (spreads_reportChange (FileSystem.spreads_copyFile hfs source target))
  intro place content x hresolve
  obtain ⟨⟨e, herror⟩, hnone⟩ | ⟨hdevice, hcopy⟩ | ⟨dest, after, hsink, hcopy, hsame, hdest⟩ :=
    FileSystem.copyFile_of_file hresolve target
  · rw [herror, reportChange_error]
    exact .refused hnone
  · rw [hcopy, reportChange_ok]
    exact .device hdevice
  · rw [hcopy, reportChange_ok]
    exact .written hsink hsame (FileSystem.read_eq_ok_iff.2
      (.inl ⟨dest, (hsame.sink?_eq target).trans hsink, hdest⟩))

/-- What becomes of the files when two names are given to copy from and to. -/
theorem copies_runCp (hfs : fs.Proper) (cwd : Path) (name arg : String) (others : List String) :
    Copies (Path.resolve cwd name)
      (destination fs (Path.resolve cwd name) (Path.resolve cwd arg)) fs
      (runCp cwd (name :: arg :: others) fs) := by
  let source := Path.resolve cwd name
  let target := destination fs source (Path.resolve cwd arg)
  have hkept : FileSystem.Spreads target fs fs := .refl hfs target
  rw [runCp, withDestination, withPath]
  simp only [required, List.getElem?_cons_succ, List.getElem?_cons_zero]
  cases hthere : fs.pathExists source with
  | false =>
    refine copies_of_spreads hkept fun place content x hresolve => ?_
    rw [FileSystem.pathExists_iff.2 ⟨_, _, hresolve⟩] at hthere
    contradiction
  | true =>
    cases hdir : fs.isDir source with
    | false => exact copies_copyFile hfs source target
    | true =>
      obtain ⟨dir, es, hes⟩ := FileSystem.isDir_iff.1 hdir
      cases hexists : fs.pathExists target with
      | true => exact copies_of_spreads hkept (by simp [source, hes])
      | false =>
        exact copies_of_spreads
          (spreads_reportChange (FileSystem.spreads_copyLevels _ hfs source target))
          (by simp [source, hes])

/-- A file that is copied onto itself is lost. -/
theorem self_copy_empties : besideDanglingLink.read "/a" = .ok [1] ∧
    (runCp "/" ["a", "a"] besideDanglingLink).1 = .ok (.text ("File copied to " ++ "/a")) ∧
    (runCp "/" ["a", "a"] besideDanglingLink).2.read "/a" = .ok [] := by
  have hpath : Path.resolve "/" "a" = "/a" := by decide
  have hresolve := resolve_fileBesideLink
  have hdest : destination besideDanglingLink "/a" "/a" = "/a" :=
    destination_of_isDir_eq_false (by rw [FileSystem.isDir, hresolve]; rfl) "/a"
  have hsink : besideDanglingLink.sink? "/a" = some (.file ["a"]) :=
    FileSystem.sink?_eq_some_iff.2 ⟨_, locate_fileBesideLink .follow, rfl⟩
  have hcopies := copies_runCp proper_besideDanglingLink "/" "a" "a" []
  rw [hpath, hdest] at hcopies
  refine ⟨FileSystem.read_eq_ok_iff.2 (.inl ⟨["a"], hsink, rfl⟩), ?_⟩
  generalize runCp "/" ["a", "a"] besideDanglingLink = result at hcopies ⊢
  cases hcopies.file _ _ _ hresolve with
  | refused hnone => simp [hsink] at hnone
  | device hdevice => simp [hsink] at hdevice
  | @written dest after hfile _ hread =>
    obtain rfl : (["a"] : Place) = dest := by simpa [hsink] using hfile
    exact ⟨by simp, hread⟩

/-- A copy keeps what every file holds, except where the target or a path below it leads; where the
target is new it keeps what every file holds. What is copied is read back unless a file is copied
onto itself. -/
theorem copy_keeps_other_files (hfs : fs.Proper) (cwd : Path) (args : List String) :
    (args.length < 2 → ∃ e, runCp cwd args fs = (.error e, fs)) ∧
      ∀ name arg others, args = name :: arg :: others →
        Copies (Path.resolve cwd name)
          (destination fs (Path.resolve cwd name) (Path.resolve cwd arg)) fs
          (runCp cwd args fs) := by
  refine ⟨fun hlen => ?_, ?_⟩
  · obtain hrefused | ⟨name, arg, others, rfl, -⟩ := withDestination_cases .cp cwd args fs
      fun source target => if fs.isDir source then _ else _
    · exact hrefused
    · simp only [List.length_cons] at hlen
      omega
  · rintro name arg others rfl
    exact copies_runCp hfs cwd name arg others

/-- A file that is copied to a link which leads nowhere is kept, and found where the link leads. -/
theorem copy_through_link_keeps_file : besideDanglingLink.Proper ∧
    (runCp "/" ["a", "l"] besideDanglingLink).2.contentAt ["a"] = some [1] ∧
    (runCp "/" ["a", "l"] besideDanglingLink).2.read "/l" = .ok [1] := by
  refine ⟨proper_besideDanglingLink, ?_⟩
  have hsource : Path.resolve "/" "a" = "/a" := by decide
  have htarget : Path.resolve "/" "l" = "/l" := by decide
  have hmissing := FileSystem.resolve_of_missing locate_danglingLink.2
  have hdest : destination besideDanglingLink "/a" "/l" = "/l" :=
    destination_of_isDir_eq_false (FileSystem.isDir_of_resolve_error hmissing) "/a"
  have hsink : besideDanglingLink.sink? "/l" = some (.file ["nowhere"]) :=
    FileSystem.sink?_eq_some_iff.2 ⟨_, locate_danglingLink.2, rfl⟩
  have hcopies := (copy_keeps_other_files proper_besideDanglingLink "/" ["a", "l"]).2 _ _ _ rfl
  rw [hsource, htarget, hdest] at hcopies
  generalize runCp "/" ["a", "l"] besideDanglingLink = result at hcopies ⊢
  cases hcopies.file _ _ _ resolve_fileBesideLink with
  | refused hnone => simp [hsink] at hnone
  | device hdevice => simp [hsink] at hdevice
  | @written dest after hfile hsame hread =>
    obtain rfl : (["nowhere"] : Place) = dest := by simpa [hsink] using hfile
    exact ⟨hcopies.missing _ _ _ locate_danglingLink.2 _ _ rfl, hread⟩

end LineShell.Builtin
