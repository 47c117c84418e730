import LineShell.Proofs.FileRequests
import LineShell.Proofs.WorkingDir

/-!
# Requests after a cd

A cd changes no file, and what the shell is asked to do at relative paths after it comes to the same
as what it is asked to do at the paths that go on from the directory before it. Two things limit
that. The system refuses paths that are too long or follow too many links, and those from outside
are longer and follow more of them. And an rmdir empties a directory before it takes it away, so
that from outside the way back to its entry may be gone.
-/
namespace LineShell
namespace FileRequest
variable {σ : Type} {sys : System σ} {shell inside : Shell σ} {d : String} {outcome : Outcome}

theorem cd_eq_ok (h : (Plan.simple ⟨"cd", [d]⟩).execute sys shell = (.ok outcome, inside)) :
    ∃ dir, inside = { shell with session := { shell.session with workingDir := dir } } ∧
      shell.world.files.canonical (Path.resolve shell.session.workingDir d) = .ok dir ∧
      shell.world.files.isDir dir = true := by
  have hrun : (Plan.simple ⟨"cd", [d]⟩).execute sys shell = Builtin.cd.run sys [d] shell :=
    Builtin.run_of_name sys .cd [d] shell
  rw [hrun, Builtin.run] at h
  split at h
  · cases h
  · next dir hdir =>
    cases h
    obtain ⟨name, others, hargs, hcanonical, hisDir⟩ := Builtin.exists_canonical_of_runCd hdir
    cases hargs
    exact ⟨dir, rfl, hcanonical, hisDir⟩

/-- A cd changes no file, and a request at relative paths after it ends in the same way and leaves
the same files as the request at the paths from outside, unless one of them meets a limit or removes
a part of the way but not the directory itself. -/
theorem execute_after_cd (sys : System σ) (request : FileRequest) {shell inside : Shell σ}
    {d : String} {outcome : Outcome} (hcwd : Path.isAbsolute shell.session.workingDir = true)
    (hcd : (Plan.simple ⟨"cd", [d]⟩).execute sys shell = (.ok outcome, inside))
    (hpaths : ∀ path ∈ request.paths,
      Path.isAbsolute path = false ∧ (Path.fileName? path).isSome = true)
    (hwithin : FileSystem.Unlimited
      (request.Asks inside.session.workingDir inside.world.files))
    (hwithin' : FileSystem.Unlimited
      ((request.map (onward d)).Asks shell.session.workingDir shell.world.files))
    (hspared : ∀ path target es last slash, request = .rmdir path →
      inside.world.files.locate .followAtSlash (Path.resolve inside.session.workingDir path) =
        .ok (.found target (.dir es) last slash) →
      shell.world.files.Spares target (Path.resolve shell.session.workingDir d)) :
    inside.world = shell.world ∧
      Report.kind (request.plan.execute sys inside).1 =
        Report.kind ((request.map (onward d)).plan.execute sys shell).1 ∧
      (request.plan.execute sys inside).2.world =
        ((request.map (onward d)).plan.execute sys shell).2.world := by
  obtain ⟨dir, rfl, hcanonical, hdir⟩ := cd_eq_ok hcd
  obtain ⟨place, node, last, slash, htrace, -, rfl⟩ :=
    FileSystem.canonical_eq_ok_iff.1 hcanonical
  obtain ⟨houtside, hpath⟩ :=
    FileSystem.reaches_of_trace (Path.isAbsolute_join hcwd d) htrace hdir
  have hinside := hpath _ houtside.exists_dir
  obtain ⟨hkind, hfiles⟩ := alike_report request hinside houtside hpaths hwithin hwithin'
    fun path target es last slash hrequest hlocate => by
      have htarget : shell.world.files.node? target = some (.dir es) :=
        (FileSystem.node?_of_locate hlocate).symm
      have hspares := hspared path target es last slash hrequest hlocate
      constructor
      · intro hreaches
        obtain ⟨es', hleft⟩ := hreaches.exists_dir
        exact hspares.reaches houtside htarget hleft
      · exact fun hreaches => hpath _ hreaches.exists_dir
  rw [execute_plan, execute_plan]
  refine ⟨rfl, hkind, ?_⟩
  simp only [Shell.withFiles]
  rw [hfiles]

/-- A shell goes where a path leads that is told without links. -/
theorem execute_cd {dir : Path} {place : Place} {es : Entries} {last : LastStep} {slash : Bool}
    (h : shell.world.files.trace .follow (Path.resolve shell.session.workingDir d) =
      .ok (.found place (.dir es) last slash)) (hplace : place.path = dir)
    (hdir : shell.world.files.isDir dir = true) :
    (Plan.simple ⟨"cd", [d]⟩).execute sys shell =
      (.ok .silent, { shell with session := { shell.session with workingDir := dir } }) := by
  have hcd := Builtin.runCd_of_trace h hplace hdir
  have hdest : (⟨"cd", [d]⟩ : SimpleCommand).destination? shell = some dir :=
    (SimpleCommand.destination?_eq_some_iff shell).2 ⟨rfl, hcd⟩
  exact SimpleCommand.run_of_destination? sys shell hdest

/-- Two directories side by side, the second with an empty one in it. -/
def sideBySide (es : Entries) : FileSystem :=
  ⟨[("a", .dir es), ("c", .dir [("x", .dir [])])]⟩

/-- The first directory holds a link to the second. -/
def withLinkAside : FileSystem :=
  sideBySide [("l", .link "../c")]

theorem isEntryName_aside : Path.IsEntryName "a" ∧ Path.IsEntryName "l" ∧ Path.IsEntryName "c" ∧
    Path.IsEntryName "x" := by
  decide

theorem link_aside : Path.isAbsolute "../c" = false ∧ Path.names "../c" = (["..", "c"] : Place) ∧
    Path.endsInSlash "../c" = false := by
  decide

/-- A way through the link goes on from the second directory. -/
theorem walks_aside {lastLink : LastLink} {links : ℕ} {rest : List Name} {a : Arrival}
    (hfollows : lastLink.Follows rest false)
    (h : FileSystem.Walks withLinkAside lastLink links [] (("c" : Name) :: rest) false a) :
    FileSystem.Walks withLinkAside lastLink (links + 1) []
      (("a" : Name) :: ("l" : Name) :: rest) false a := by
  refine .down rfl isEntryName_aside.1 rfl rfl (by simp)
    (.link rfl isEntryName_aside.2.1 rfl hfollows ?_)
  rw [link_aside.1, link_aside.2.1, link_aside.2.2, Bool.and_false, Bool.or_false]
  exact .pastDotDot rfl (by simp) h

/-- The shell goes to where the link leads. -/
theorem cd_aside : (Plan.simple ⟨"cd", ["a/l"]⟩).execute System.idle (Shell.startIn withLinkAside) =
    (.ok .silent, { Shell.startIn withLinkAside with
      session := { (Shell.startIn withLinkAside).session with workingDir := "/c" } }) := by
  have hpath : Path.resolve "/" "a/l" = "/a/l" ∧ Path.names "/a/l" = (["a", "l"] : Place) ∧
      Path.endsInSlash "/a/l" = false := by decide
  have hplace : Path.names "/c" = (["c"] : Place) ∧ Path.endsInSlash "/c" = false := by decide
  have hlast (links : ℕ) : FileSystem.Walks withLinkAside .follow links [] ["c"] false
      (.found ["c"] (.dir [("x", .dir [])]) .name false) :=
    .last rfl isEntryName_aside.2.2.1 rfl (by simp [Node.isLink])
  have htrace : withLinkAside.trace .follow (Path.resolve "/" "a/l") =
      .ok (.found ["c"] (.dir [("x", .dir [])]) .name false) := by
    rw [hpath.1]
    apply FileSystem.trace_of_walks (by decide) (by decide)
    rw [hpath.2.1, hpath.2.2]
    exact walks_aside (.inr (.inl rfl)) (hlast _)
  have hdir : withLinkAside.isDir "/c" = true := by
    have hlocate : withLinkAside.locate .follow "/c" =
        .ok (.found ["c"] (.dir [("x", .dir [])]) .name false) := by
      apply FileSystem.locate_of_walks (by decide) (by decide) (by decide)
      rw [hplace.1, hplace.2]
      exact hlast _
    exact FileSystem.isDir_iff.2 ⟨_, _, FileSystem.resolve_eq_ok_iff.2 ⟨_, _, hlocate, by simp⟩⟩
  exact execute_cd htrace (by decide) hdir

/-- The empty directory is found from inside the second one and through the link. -/
theorem locate_empty_aside (lastLink : LastLink) :
    withLinkAside.locate lastLink "/c/x" = .ok (.found ["c", "x"] (.dir []) .name false) ∧
      withLinkAside.locate lastLink "/a/l/x" =
        .ok (.found ["c", "x"] (.dir []) .name false) := by
  have hpath : Path.names "/c/x" = (["c", "x"] : Place) ∧ Path.endsInSlash "/c/x" = false ∧
      Path.names "/a/l/x" = (["a", "l", "x"] : Place) ∧ Path.endsInSlash "/a/l/x" = false := by
    decide
  have hdown (links : ℕ) : FileSystem.Walks withLinkAside lastLink links [] ["c", "x"] false
      (.found ["c", "x"] (.dir []) .name false) :=
    .down rfl isEntryName_aside.2.2.1 rfl rfl (by simp)
      (.last rfl isEntryName_aside.2.2.2 rfl (by simp [Node.isLink]))
  constructor <;> apply FileSystem.locate_of_walks (by decide) (by decide) (by decide)
  · rw [hpath.1, hpath.2.1]
    exact hdown _
  · rw [hpath.2.2.1, hpath.2.2.2]
    exact walks_aside (.inl (by simp)) (hdown _)

/-- No limit is met when the empty directory is removed. -/
theorem unlimited_aside {path : Path}
    (h : ∀ lastLink, withLinkAside.locate lastLink path =
      .ok (.found ["c", "x"] (.dir []) .name false)) :
    FileSystem.Unlimited (FileSystem.RemoveTreeAsks withLinkAside path) := by
  have hfree : withLinkAside.Within path := by
    intro lastLink e herror
    rw [h] at herror
    contradiction
  intro fs asked hasked
  cases hasked with
  | self => exact hfree
  | emptied hlocate =>
    rw [h] at hlocate
    cases hlocate
    exact hfree

/-- The empty directory holds nothing on the way through the link. -/
theorem spares_aside : withLinkAside.Spares ["c", "x"] "/a/l" := by
  have hnames : Path.names "/a/l" = (["a", "l"] : Place) := by decide
  have hplaces : ¬ (["c", "x"] : Place) <+: ["a"] ∧ ¬ (["c", "x"] : Place) <+: ["a", "l"] ∧
      ¬ (["c", "x"] : Place) <+: ["c"] := by decide
  refine .inr fun q hq hbelow => ?_
  rw [FileSystem.OnTheWay, hnames] at hq
  obtain rfl | ⟨es, hdir, hq⟩ | ⟨target, links, hlink, hq⟩ := hq.entry_cases isEntryName_aside.1
  · exact hplaces.1 hbelow.1
  · obtain rfl | ⟨es, hdir, hq⟩ | ⟨target, links, hlink, hq⟩ := hq.entry_cases isEntryName_aside.2.1
    · exact hplaces.2.1 hbelow.1
    · exact absurd rfl hq.ne_nil
    · cases hlink
      rw [link_aside.1, link_aside.2.1, List.append_nil] at hq
      obtain rfl | ⟨es, hdir, hq⟩ | ⟨target, links, hlink, hq⟩ :=
        hq.of_dotDot.entry_cases isEntryName_aside.2.2.1
      · exact hplaces.2.2 hbelow.1
      · exact absurd rfl hq.ne_nil
      · cases hlink
  · cases hlink

/-- From inside and from outside, an empty directory is removed that is reached through a link. -/
theorem rmdir_after_cd :
    Path.isAbsolute (Shell.startIn withLinkAside).session.workingDir = true ∧
    ∃ inside, (Plan.simple ⟨"cd", ["a/l"]⟩).execute System.idle (Shell.startIn withLinkAside) =
        (.ok .silent, inside) ∧
      inside.world = (Shell.startIn withLinkAside).world ∧
      Report.kind ((rmdir "x").plan.execute System.idle inside).1 =
        Report.kind (((rmdir "x").map (onward "a/l")).plan.execute System.idle
          (Shell.startIn withLinkAside)).1 ∧
      ((rmdir "x").plan.execute System.idle inside).2.world =
        (((rmdir "x").map (onward "a/l")).plan.execute System.idle
          (Shell.startIn withLinkAside)).2.world := by
  have hpath : Path.resolve "/" (onward "a/l" "x") = "/a/l/x" ∧ Path.resolve "/c" "x" = "/c/x" ∧
      Path.resolve "/" "a/l" = "/a/l" := by
    rw [Path.resolve, encode_onward]
    decide
  have hname : Path.isAbsolute "x" = false ∧ (Path.fileName? "x").isSome = true := by
    decide
  have habsolute : Path.isAbsolute "/" = true := by decide
  have hinside (lastLink : LastLink) : withLinkAside.locate lastLink (Path.resolve "/c" "x") =
      .ok (.found ["c", "x"] (.dir []) .name false) :=
    hpath.2.1 ▸ (locate_empty_aside lastLink).1
  have houtside (lastLink : LastLink) : withLinkAside.locate lastLink
      (Path.resolve "/" (onward "a/l" "x")) = .ok (.found ["c", "x"] (.dir []) .name false) :=
    hpath.1 ▸ (locate_empty_aside lastLink).2
  refine ⟨habsolute, _, cd_aside, execute_after_cd System.idle (rmdir "x") habsolute cd_aside
    (fun path hmem => ?_) (unlimited_aside hinside) (unlimited_aside houtside)
    fun path target es last slash hrequest hlocate => ?_⟩
  · rwa [List.mem_singleton.1 hmem]
  · cases hrequest
    cases hlocate.symm.trans (hinside .followAtSlash)
    have hspares := spares_aside
    rwa [← hpath.2.2] at hspares

/-! ## Where it fails -/

theorem walks_back (es : Entries) (lastLink : LastLink) (links : ℕ) :
    FileSystem.Walks (sideBySide es) lastLink links [] ["c", "..", "a"] false
      (.found ["a"] (.dir es) .name false) :=
  .down rfl isEntryName_aside.2.2.1 rfl rfl (by simp)
    (.pastDotDot rfl (by simp) (.last rfl isEntryName_aside.1 rfl (by simp [Node.isLink])))

/-- From inside the second directory, the first one is found whatever it holds. -/
theorem locate_back (es : Entries) (lastLink : LastLink) :
    (sideBySide es).locate lastLink "/c/../a" = .ok (.found ["a"] (.dir es) .name false) := by
  have hpath : Path.names "/c/../a" = (["c", "..", "a"] : Place) ∧
      Path.endsInSlash "/c/../a" = false := by decide
  apply FileSystem.locate_of_walks (by decide) (by decide) (by decide)
  rw [hpath.1, hpath.2]
  exact walks_back es lastLink _

/-- From outside, it is found through the link. -/
theorem locate_through (lastLink : LastLink) : withLinkAside.locate lastLink "/a/l/../a" =
    .ok (.found ["a"] (.dir [("l", .link "../c")]) .name false) := by
  have hpath : Path.names "/a/l/../a" = (["a", "l", "..", "a"] : Place) ∧
      Path.endsInSlash "/a/l/../a" = false := by decide
  apply FileSystem.locate_of_walks (by decide) (by decide) (by decide)
  rw [hpath.1, hpath.2]
  exact walks_aside (.inl (by simp)) (walks_back _ lastLink _)

/-- It is no longer found once the link has been taken away. -/
theorem locate_through_empty (lastLink : LastLink) :
    (sideBySide []).locate lastLink "/a/l/../a" = .error (.os .noEntry) := by
  have hpath : Path.names "/a/l/../a" = (["a", "l", "..", "a"] : Place) := by decide
  have hdir : (sideBySide []).node? ([] ++ [("a" : Name)]) = some (.dir []) := rfl
  refine FileSystem.locate_error_of_walk (locate_through lastLink) ?_
  rw [hpath, FileSystem.walk_past_dir (by simp) isEntryName_aside.1 hdir]
  exact FileSystem.walk_past_absent (by simp) hdir isEntryName_aside.2.1 rfl

theorem files_execute (request : FileRequest) :
    (request.plan.execute sys shell).2.world.files =
      (request.report shell.session.workingDir shell.world.files).2 := by
  rw [execute_plan]
  rfl

/-- The first directory is emptied before its entry is taken away. -/
theorem files_rmdir_aside {cwd : Path} {path : String} {result : Except IoError Unit}
    {after : FileSystem}
    (hlocate : ∀ lastLink, withLinkAside.locate lastLink (Path.resolve cwd path) =
      .ok (.found ["a"] (.dir [("l", .link "../c")]) .name false))
    (hremove : (sideBySide []).removeDir (Path.resolve cwd path) = (result, after)) :
    ((rmdir path).report cwd withLinkAside).2 = after := by
  have hdir : withLinkAside.isDir (Path.resolve cwd path) = true :=
    FileSystem.isDir_iff.2 ⟨_, _, FileSystem.resolve_eq_ok_iff.2 ⟨_, _, hlocate .follow, by simp⟩⟩
  have hempty : withLinkAside.put ["a"] (.dir []) = sideBySide [] := rfl
  have htree : (withLinkAside.removeTree (Path.resolve cwd path)).2 = after := by
    rw [FileSystem.removeTree, hlocate]
    dsimp only
    rw [hempty, hremove]
    split
    · next heq =>
      cases heq
      rfl
    · rfl
  simp [report, Builtin.runRmdir, Builtin.withPath, Builtin.required, hdir, htree,
    Builtin.files_reportChange]

theorem files_rmdir_inside :
    ((rmdir "../a").report "/c" withLinkAside).2 = ⟨[("c", .dir [("x", .dir [])])]⟩ := by
  have hpath : Path.resolve "/c" "../a" = "/c/../a" := by decide
  have hremove : (sideBySide []).removeDir (Path.resolve "/c" "../a") =
      (.ok (), ⟨[("c", .dir [("x", .dir [])])]⟩) := by
    rw [hpath, FileSystem.removeDir, locate_back]
    rfl
  exact files_rmdir_aside (fun lastLink => hpath ▸ locate_back _ lastLink) hremove

theorem files_rmdir_outside :
    ((rmdir (onward "a/l" "../a")).report "/" withLinkAside).2 = sideBySide [] := by
  have hpath : Path.resolve "/" (onward "a/l" "../a") = "/a/l/../a" := by
    rw [Path.resolve, encode_onward]
    decide
  have hremove : (sideBySide []).removeDir (Path.resolve "/" (onward "a/l" "../a")) =
      (.error (.os .noEntry), sideBySide []) := by
    rw [hpath, FileSystem.removeDir, locate_through_empty]
  exact files_rmdir_aside (fun lastLink => hpath ▸ locate_through lastLink) hremove

/-- Slashes that are typed one after another lead to the root. -/
def slashes (n : ℕ) : String :=
  String.ofList (List.replicate n '/')

theorem encode_slashes (n : ℕ) : Utf8.encode (slashes n) = List.replicate n Path.slash :=
  Utf8.encode_replicate (by decide) n

theorem splitSlash_replicate (n : ℕ) :
    Path.splitSlash (List.replicate n Path.slash) = List.replicate (n + 1) [] := by
  induction n with
  | zero => rfl
  | succ n ih => rw [List.replicate_succ, Path.splitSlash, ih, ← List.replicate_succ]

theorem names_slashes (n : ℕ) : Path.names (slashes n) = [] := by
  rw [Path.names, encode_slashes, splitSlash_replicate]
  simp

theorem length_slashes (n : ℕ) : (Utf8.encode (slashes n)).length = n := by
  rw [encode_slashes, List.length_replicate]

theorem isAbsolute_slashes (n : ℕ) : Path.isAbsolute (slashes (n + 1)) = true := by
  simp [Path.isAbsolute, encode_slashes, List.replicate_succ]

theorem join_slashes (n : ℕ) :
    Path.join (slashes (n + 1)) "f" = Utf8.encode (slashes (n + 1) ++ "f") := by
  have hrelative : Path.isAbsolute "f" = false := by decide
  rw [Path.join, hrelative, Utf8.encode_append, encode_slashes]
  simp [List.getLast?_replicate]

/-- With all these slashes the path of a file is too long. -/
theorem locate_slashes {n : ℕ} (hn : Path.maxLength ≤ n) (fs : FileSystem) (lastLink : LastLink) :
    fs.locate lastLink (slashes n ++ "f" : String) = .error (.os .nameTooLong) := by
  have hone : Utf8.encode "f" = [0x66] := by decide
  have hlong : Path.maxLength < (Utf8.encode (slashes n ++ "f")).length := by
    rw [Utf8.encode_append, List.length_append, length_slashes, hone, List.length_singleton]
    omega
  have hnul : 0 ∉ Utf8.encode (slashes n ++ "f") := by
    have hslash : (0 : UInt8) ≠ Path.slash := by decide
    simp [Utf8.encode_append, encode_slashes, hone, List.mem_replicate, hslash]
  simp only [FileSystem.locate, List.contains_eq_mem, hnul, hlong, decide_false, Bool.not_false,
    decide_true, Bool.and_self, if_true]

/-- The shell goes to the root, however many slashes stand for it. -/
theorem cd_slashes (n : ℕ) :
    (Plan.simple ⟨"cd", [slashes (n + 1)]⟩).execute System.idle (Shell.startIn ⟨[]⟩) =
      (.ok .silent, Shell.startIn ⟨[]⟩) := by
  have hresolve : Path.resolve "/" (slashes (n + 1)) = slashes (n + 1) :=
    Path.join_of_isAbsolute (isAbsolute_slashes n) "/"
  have htrace : (⟨[]⟩ : FileSystem).trace .follow (Path.resolve "/" (slashes (n + 1))) =
      .ok (.found [] (.dir []) .root (Path.endsInSlash (slashes (n + 1)))) := by
    rw [hresolve]
    have hslash : (0 : UInt8) ≠ Path.slash := by decide
    apply FileSystem.trace_of_walks (by simp [encode_slashes, List.mem_replicate, hslash])
      (by simp [encode_slashes, List.replicate_succ])
    rw [names_slashes]
    exact .stay rfl
  exact execute_cd htrace rfl (Builtin.isDir_root _)

theorem files_touch_inside : ((touch "f").report "/" ⟨[]⟩).2 = ⟨[("f", .file [] false)]⟩ := by
  have hpath : Path.resolve "/" "f" = "/f" := by decide
  have hmissing : (⟨[]⟩ : FileSystem).pathExists "/f" = false :=
    FileSystem.pathExists_of_resolve_error (FileSystem.resolve_of_missing FileSystem.locate_new)
  have hcreate : (⟨[]⟩ : FileSystem).create "/f" = (.ok (), ⟨[("f", .file [] false)]⟩) := by
    rw [FileSystem.create, FileSystem.update, FileSystem.locate_new]
    rfl
  simp [report, Builtin.runTouch, Builtin.withPath, Builtin.required, hpath, hmissing, hcreate,
    Builtin.files_reportChange]

theorem files_touch_slashes {n : ℕ} (hn : Path.maxLength ≤ n + 1) :
    ((touch (onward (slashes (n + 1)) "f")).report "/" ⟨[]⟩).2 = ⟨[]⟩ := by
  have habs := Path.isAbsolute_join (isAbsolute_slashes n) "f"
  have hpath : Path.resolve "/" (onward (slashes (n + 1)) "f") =
      Utf8.encode (slashes (n + 1) ++ "f") := by
    rw [Path.resolve, encode_onward, Path.join_of_isAbsolute habs, join_slashes]
  have htoo := locate_slashes hn ⟨[]⟩
  have hmissing : (⟨[]⟩ : FileSystem).pathExists (slashes (n + 1) ++ "f" : String) = false :=
    FileSystem.pathExists_of_resolve_error (FileSystem.resolve_of_locate_error (htoo .follow))
  have hcreate : (⟨[]⟩ : FileSystem).create (slashes (n + 1) ++ "f" : String) =
      (.error (.os .nameTooLong), ⟨[]⟩) := by
    rw [FileSystem.create, FileSystem.update, htoo]
  simp [report, Builtin.runTouch, Builtin.withPath, Builtin.required, hpath, hmissing, hcreate,
    Builtin.files_reportChange]

/-- From inside a directory is removed that is only emptied from outside, and a file is made whose
path from outside is too long. -/
theorem not_alike_after_cd :
    (∃ inside, (Plan.simple ⟨"cd", ["a/l"]⟩).execute System.idle (Shell.startIn withLinkAside) =
        (.ok .silent, inside) ∧
      ((rmdir "../a").plan.execute System.idle inside).2.world.files ≠
        (((rmdir "../a").map (onward "a/l")).plan.execute System.idle
          (Shell.startIn withLinkAside)).2.world.files) ∧
    ∃ inside, (Plan.simple ⟨"cd", [slashes Path.maxLength]⟩).execute System.idle
          (Shell.startIn ⟨[]⟩) = (.ok .silent, inside) ∧
      ((touch "f").plan.execute System.idle inside).2.world.files ≠
        (((touch "f").map (onward (slashes Path.maxLength))).plan.execute System.idle
          (Shell.startIn ⟨[]⟩)).2.world.files := by
  refine ⟨⟨_, cd_aside, fun heq => ?_⟩, _, cd_slashes _, fun heq => ?_⟩
  · rw [files_execute, files_execute] at heq
    have hsame := files_rmdir_inside.symm.trans (heq.trans files_rmdir_outside)
    simp [sideBySide] at hsame
  · rw [files_execute, files_execute] at heq
    have hlong : Path.maxLength ≤ 4094 + 1 := by decide
    have hsame := files_touch_inside.symm.trans (heq.trans (files_touch_slashes hlong))
    simp at hsame

end FileRequest
end LineShell
