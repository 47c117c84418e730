import LineShell.Proofs.JobTable
import LineShell.Proofs.Refusal
import LineShell.Proofs.Taking

/-!
# The working directory

A cd makes sure that it leads to a directory, but nothing later keeps that directory from being
removed or moved away by the shell itself. As long as that does not happen, and no other process
changes files, the shell works in a directory that exists; and it never works anywhere but at an
absolute path.
-/
namespace LineShell

/-- A cd leads to where its first argument leads, told without links, if a directory is there. -/
theorem Builtin.exists_canonical_of_runCd {cwd dir : Path} {args : List String} {fs : FileSystem}
    (h : runCd cwd args fs = .ok dir) : ∃ name others, args = name :: others ∧
      fs.canonical (Path.resolve cwd name) = .ok dir ∧ fs.isDir dir = true := by
  rw [runCd] at h
  cases args with
  | nil => contradiction
  | cons name others =>
    rw [required] at h
    dsimp only at h
    split at h
    · contradiction
    · next full hfull =>
      split_ifs at h with hdir
      cases h
      exact ⟨name, others, rfl, hfull, hdir⟩

/-- A cd leads to where a path leads that is told without links. -/
theorem Builtin.runCd_of_trace {cwd dir : Path} {name : String} {fs : FileSystem} {place : Place}
    {es : Entries} {last : LastStep} {slash : Bool}
    (h : fs.trace .follow (Path.resolve cwd name) = .ok (.found place (.dir es) last slash))
    (hplace : place.path = dir) (hdir : fs.isDir dir = true) : runCd cwd [name] fs = .ok dir := by
  have hcanonical := FileSystem.canonical_eq_ok_iff.2 ⟨place, .dir es, last, slash, h, fun _ => rfl,
    hplace⟩
  simp [runCd, required, hcanonical, hdir]

/-- A cd leads to a directory that exists. -/
theorem Builtin.usable_of_runCd {cwd dir : Path} {args : List String} {fs : FileSystem}
    (h : runCd cwd args fs = .ok dir) : Path.isAbsolute dir = true ∧ fs.isDir dir = true := by
  obtain ⟨name, others, -, hfull, hdir⟩ := exists_canonical_of_runCd h
  obtain ⟨place, node, last, slash, -, -, rfl⟩ := FileSystem.canonical_eq_ok_iff.1 hfull
  exact ⟨place.isAbsolute_path, hdir⟩

/-- The working directory exists and is named by an absolute path. -/
def Shell.Usable {σ : Type} (shell : Shell σ) : Prop :=
  Path.isAbsolute shell.session.workingDir = true ∧
    shell.world.files.isDir shell.session.workingDir = true

namespace Dispatch
variable {σ : Type} {sys : System σ} {line : String} {shell : Shell σ}

def ofLines (sys : System σ) : List String → Shell σ → Shell σ
  | [], shell => shell
  | line :: lines, shell => ofLines sys lines (ofLine sys line shell).2

/-- A line takes away an entry on the way to the working directory: it asks for an rmdir or an mv,
and the entry, which is what that is told to take away or lies below it, is not what it was. -/
def TakesAway (sys : System σ) (line : String) (shell : Shell σ) : Prop :=
  ∃ plan place q, Plan.parse (Text.trim line) = .ok plan ∧
    plan.Takes shell.session.workingDir shell.world.files place ∧ place <+: q ∧
    shell.world.files.OnTheWay shell.session.workingDir q ∧
    ((ofLine sys line shell).2.world.files.node? q).map Node.kind ≠
      (shell.world.files.node? q).map Node.kind

/-- Only an rmdir or an mv takes anything away. -/
theorem not_takesAway_of_parse {program : String} {args : List String}
    (h : Plan.parse (Text.trim line) = .ok (.simple ⟨program, args⟩)) (hrmdir : program ≠ "rmdir")
    (hmv : program ≠ "mv") : ¬ TakesAway sys line shell := by
  rintro ⟨plan, place, q, hparse, htakes, -⟩
  cases hparse.symm.trans h
  cases htakes with
  | removed => exact hrmdir rfl
  | moved => exact hmv rfl
  | renamed => exact hmv rfl

/-- There is nothing on the way to the root. -/
theorem not_takesAway_of_root (h : shell.session.workingDir = "/") :
    ¬ TakesAway sys line shell := by
  rintro ⟨plan, place, q, -, -, -, hq, -⟩
  have hnames : Path.names "/" = [] := by decide
  rw [h, FileSystem.OnTheWay, hnames] at hq
  exact hq.ne_nil rfl

theorem workingDir_conclude (line : String) (report : Report) (shell : Shell σ) :
    (conclude line report shell).2.session.workingDir = shell.session.workingDir := by
  rw [conclude.eq_def]
  split <;> rfl

theorem workingDir_ofLine {plan : Plan} (h : Plan.parse (Text.trim line) = .ok plan) :
    (ofLine sys line shell).2.session.workingDir =
      (plan.destination? shell).getD shell.session.workingDir := by
  have hplan := Plan.session_execute sys shell plan
  rw [ofLine, ofLineBy]
  dsimp only
  split_ifs with hblank
  · rw [noOp_of_parse h hblank]
    rfl
  · rw [h]
    exact (workingDir_conclude ..).trans (by rw [hplan])

theorem files_ofLine (hsys : sys.KeepsFiles) (shell : Shell σ) {plan : Plan}
    (h : Plan.parse (Text.trim line) = .ok plan) : (ofLine sys line shell).2.world.files =
      plan.filesAfter shell.session.workingDir shell.world.files := by
  rw [ofLine, ofLineBy]
  dsimp only
  split_ifs with hblank
  · rw [noOp_of_parse h hblank]
    rfl
  · rw [h, world_conclude]
    exact plan.files_execute hsys shell

/-- A line that is not understood changes neither the files nor the working directory. -/
theorem ofLine_of_parse_error (sys : System σ) (shell : Shell σ) {e : ParseError}
    (h : Plan.parse (Text.trim line) = .error e) :
    (ofLine sys line shell).2.session.workingDir = shell.session.workingDir ∧
      (ofLine sys line shell).2.world = shell.world := by
  rw [ofLine, ofLineBy]
  dsimp only
  split_ifs with hblank
  · exact ⟨rfl, rfl⟩
  · rw [h]
    exact ⟨workingDir_conclude .., world_conclude ..⟩

/-- The working directory stays usable unless something is taken away on the way to it. -/
theorem usable_ofLine (hsys : sys.KeepsFiles) (h : shell.Usable)
    (hkept : ¬ TakesAway sys line shell) : (ofLine sys line shell).2.Usable := by
  obtain ⟨habsolute, hdir⟩ := h
  cases hparse : Plan.parse (Text.trim line) with
  | error e =>
    obtain ⟨hcwd, hworld⟩ := ofLine_of_parse_error sys shell hparse
    rw [Shell.Usable, hcwd, hworld]
    exact ⟨habsolute, hdir⟩
  | ok plan =>
    have hfiles := files_ofLine hsys shell hparse
    rw [Shell.Usable, workingDir_ofLine hparse, hfiles]
    cases hdest : plan.destination? shell with
    | some dir =>
      -- a cd changes no file
      obtain ⟨args, rfl, hcd⟩ := (Plan.destination?_eq_some_iff shell).1 hdest
      exact Builtin.usable_of_runCd hcd
    | none =>
      refine ⟨habsolute, plan.isDir_filesAfter _ hdir fun place q htakes hplace hq => ?_⟩
      by_contra hkind
      rw [← hfiles] at hkind
      exact hkept ⟨plan, place, q, hparse, htakes, hplace, hq, hkind⟩

/-- The working directory stays absolute whatever is taken away. -/
theorem isAbsolute_ofLine (h : Path.isAbsolute shell.session.workingDir = true) :
    Path.isAbsolute (ofLine sys line shell).2.session.workingDir = true := by
  cases hparse : Plan.parse (Text.trim line) with
  | error e => rwa [(ofLine_of_parse_error sys shell hparse).1]
  | ok plan =>
    rw [workingDir_ofLine hparse]
    cases hdest : plan.destination? shell with
    | none => exact h
    | some dir =>
      obtain ⟨args, rfl, hcd⟩ := (Plan.destination?_eq_some_iff shell).1 hdest
      exact (Builtin.usable_of_runCd hcd).1

/-- A shell that starts in a directory that exists always works at an absolute path, and in a
directory that exists as long as none of its lines takes away an entry on the way there. -/
theorem usable_ofLines (hsys : sys.KeepsFiles) (lines : List String) (shell : Shell σ)
    (h : shell.Usable) :
    Path.isAbsolute (ofLines sys lines shell).session.workingDir = true ∧
      ((∀ front line back, lines = front ++ line :: back →
        ¬ TakesAway sys line (ofLines sys front shell)) → (ofLines sys lines shell).Usable) := by
  constructor
  · have habsolute := h.1
    clear h
    induction lines generalizing shell with
    | nil => exact habsolute
    | cons line lines ih => exact ih _ (isAbsolute_ofLine habsolute)
  · intro hkept
    induction lines generalizing shell with
    | nil => exact h
    | cons line lines ih =>
      refine ih _ (usable_ofLine hsys h (hkept [] line lines rfl)) fun front other back heq => ?_
      rw [heq] at hkept
      exact hkept (line :: front) other back rfl

/-- Files of which one is an empty directory. -/
def withEmptyDir : FileSystem :=
  ⟨[("d", .dir [])]⟩

theorem usable_startIn (fs : FileSystem) : (Shell.startIn fs).Usable := by
  have habsolute : Path.isAbsolute "/" = true := by decide
  exact ⟨habsolute, Builtin.isDir_root fs⟩

theorem walks_emptyDir (lastLink : LastLink) (links : ℕ) :
    FileSystem.Walks withEmptyDir lastLink links [] ["d"] false
      (.found ["d"] (.dir []) .name false) :=
  .last rfl (by decide) rfl (by simp [Node.isLink])

theorem runCd_emptyDir : Builtin.runCd "/" ["d"] withEmptyDir = .ok "/d" := by
  have hpath : Path.resolve "/" "d" = "/d" := by decide
  have hnames : Path.names "/d" = (["d"] : Place) ∧ Path.endsInSlash "/d" = false := by decide
  have hwalks : FileSystem.Walks withEmptyDir .follow FileSystem.maxLinks [] (Path.names "/d")
      (Path.endsInSlash "/d") (.found ["d"] (.dir []) .name false) := by
    rw [hnames.1, hnames.2]
    exact walks_emptyDir ..
  have hdir : withEmptyDir.isDir "/d" = true :=
    FileSystem.isDir_iff.2 ⟨_, _, FileSystem.resolve_eq_ok_iff.2
      ⟨_, _, FileSystem.locate_of_walks (by decide) (by decide) (by decide) hwalks, by simp⟩⟩
  have htrace := FileSystem.trace_of_walks (by decide) (by decide) hwalks
  exact Builtin.runCd_of_trace (hpath ▸ htrace) (by decide) hdir

/-- The shell moves into the directory. -/
theorem ofLine_cd (shell : Shell ℕ) (hcwd : shell.session.workingDir = "/")
    (hfiles : shell.world.files = withEmptyDir) :
    (ofLine System.idle "cd d" shell).2.session.workingDir = "/d" ∧
      (ofLine System.idle "cd d" shell).2.world.files = withEmptyDir := by
  have hparse : Plan.parse (Text.trim "cd d") = .ok (.simple ⟨"cd", ["d"]⟩) := by decide +kernel
  have hdest : (Plan.simple ⟨"cd", ["d"]⟩).destination? shell = some "/d" :=
    (Plan.destination?_eq_some_iff shell).2 ⟨_, rfl, by rw [hcwd, hfiles, runCd_emptyDir]⟩
  rw [workingDir_ofLine hparse, files_ofLine System.keepsFiles_idle _ hparse, hdest, hfiles]
  exact ⟨rfl, rfl⟩

theorem locate_emptyDir (lastLink : LastLink) :
    withEmptyDir.locate lastLink "/d/../d" = .ok (.found ["d"] (.dir []) .name false) := by
  have hnames : Path.names "/d/../d" = (["d", "..", "d"] : Place) := by decide
  have hslash : Path.endsInSlash "/d/../d" = false := by decide
  have hname : Path.IsEntryName "d" := by decide
  apply FileSystem.locate_of_walks (by decide) (by decide) (by decide)
  rw [hnames, hslash]
  exact .down rfl hname rfl rfl (by simp) (.pastDotDot rfl (by simp) (walks_emptyDir ..))

theorem runRmdir_emptyDir : (Builtin.runRmdir "/d" ["../d"] withEmptyDir).2 = ⟨[]⟩ := by
  have hpath : Path.resolve "/d" "../d" = "/d/../d" := by decide
  have hdir : withEmptyDir.isDir "/d/../d" = true :=
    FileSystem.isDir_iff.2 ⟨_, _, FileSystem.resolve_eq_ok_iff.2
      ⟨_, _, locate_emptyDir .follow, by simp⟩⟩
  have hempty : withEmptyDir.put ["d"] (.dir []) = withEmptyDir := rfl
  have hremove : withEmptyDir.removeDir "/d/../d" = (.ok (), ⟨[]⟩) := by
    rw [FileSystem.removeDir, locate_emptyDir]
    rfl
  have htree : withEmptyDir.removeTree "/d/../d" = (.ok (), ⟨[]⟩) := by
    rw [FileSystem.removeTree, locate_emptyDir]
    simp only [hempty, hremove]
  simp [Builtin.runRmdir, Builtin.withPath, Builtin.required, hpath, hdir, htree,
    Builtin.reportChange]

theorem isDir_gone : (⟨[]⟩ : FileSystem).isDir "/d" = false := by
  have hnames : Path.names "/d" = (["d"] : Place) ∧ Path.endsInSlash "/d" = false := by decide
  have hmissing : (⟨[]⟩ : FileSystem).locate .follow "/d" = .ok (.missing [] "d" false) := by
    apply FileSystem.locate_of_walks (by decide) (by decide) (by decide)
    rw [hnames.1, hnames.2]
    exact .absent rfl (by decide) rfl
  rw [FileSystem.isDir, FileSystem.resolve_of_missing hmissing]

/-- A shell removes the directory that it works in. -/
theorem not_usable_of_rmdir : System.idle.KeepsFiles ∧ (Shell.startIn withEmptyDir).Usable ∧
    ¬ (ofLines System.idle ["cd d", "rmdir ../d"] (Shell.startIn withEmptyDir)).Usable := by
  refine ⟨System.keepsFiles_idle, usable_startIn _, fun h => ?_⟩
  obtain ⟨hcwd, hfiles⟩ := ofLine_cd (Shell.startIn withEmptyDir) rfl rfl
  have hparse : Plan.parse (Text.trim "rmdir ../d") = .ok (.simple ⟨"rmdir", ["../d"]⟩) := by
    decide +kernel
  have hstays : (Plan.simple ⟨"rmdir", ["../d"]⟩).destination?
      (ofLine System.idle "cd d" (Shell.startIn withEmptyDir)).2 = none := rfl
  have hafter : (Plan.simple ⟨"rmdir", ["../d"]⟩).filesAfter "/d" withEmptyDir = ⟨[]⟩ :=
    runRmdir_emptyDir
  have hdir := h.2
  rw [ofLines, ofLines, ofLines, workingDir_ofLine hparse,
    files_ofLine System.keepsFiles_idle _ hparse, hstays, hcwd, hfiles, hafter, Option.getD_none,
    isDir_gone] at hdir
  contradiction

/-- A shell at the root is told to remove a directory; then it works in another one. -/
theorem usable_after_rmdir_at_root : System.idle.KeepsFiles ∧
    (Shell.startIn withEmptyDir).Usable ∧
    (ofLines System.idle ["rmdir e", "cd d", "touch f"] (Shell.startIn withEmptyDir)).Usable := by
  have hcd : Plan.parse (Text.trim "cd d") = .ok (.simple ⟨"cd", ["d"]⟩) := by decide +kernel
  have htouch : Plan.parse (Text.trim "touch f") = .ok (.simple ⟨"touch", ["f"]⟩) := by
    decide +kernel
  refine ⟨System.keepsFiles_idle, usable_startIn _,
    (usable_ofLines System.keepsFiles_idle _ _ (usable_startIn _)).2 fun front line back h => ?_⟩
  obtain _ | ⟨_, _ | ⟨_, _ | ⟨_, front⟩⟩⟩ := front
  · exact not_takesAway_of_root rfl
  · cases h
    exact not_takesAway_of_parse hcd (by decide) (by decide)
  · cases h
    exact not_takesAway_of_parse htouch (by decide) (by decide)
  · simp at h

end Dispatch
end LineShell
