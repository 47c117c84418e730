import LineShell.Proofs.AfterCd
import LineShell.Proofs.TreeCopy

/-!
# Copies of directories

A cp of a directory to where nothing is leaves the same below the destination as below the source,
makes the directories above the destination that are missing, and changes nothing else. The order in
which directories yield their entries makes no difference. The destination must not lead up again
behind a name that is missing, nor end in a dot there: such a path comes to lead elsewhere while the
directories are made. And all paths must be such as the system takes.
-/
namespace LineShell

namespace FileSystem
variable {fs fs' after after' : FileSystem} {source target path : Path} {S T dir place q : Place}
  {name : Name} {node : Node} {es : Entries} {rest : List Name}

/-! ## The order of entries -/

/-- The same tree, in whatever order the directories yield their entries. -/
def SameTree (fs fs' : FileSystem) : Prop :=
  ∀ q, fs'.faceAt q = fs.faceAt q

namespace SameTree

theorem symm (h : SameTree fs fs') : SameTree fs' fs :=
  fun q => (h q).symm

theorem grows (h : SameTree fs fs') : Grows fs fs' :=
  fun q => .inl (map_kind_of_map_face (h q))

/-- A path is found to lead to the same place. -/
theorem exists_resolve (h : SameTree fs fs') (hresolve : fs.resolve path = .ok (place, node)) :
    ∃ node', fs'.resolve path = .ok (place, node') ∧ node'.face = node.face := by
  obtain ⟨last, slash, hlocate, hslash⟩ := resolve_eq_ok_iff.1 hresolve
  obtain ⟨b, hb, hsite, hthere⟩ := h.grows.locate hlocate
  obtain ⟨node', hnode', hface⟩ :=
    exists_node_of_faceAt (h.symm place) (node?_of_resolve hresolve)
  obtain rfl := Arrival.eq_found hsite (hthere.trans hnode')
  refine ⟨node', resolve_eq_ok_iff.2 ⟨_, _, hb, fun hs => ?_⟩, hface⟩
  rw [← Node.isDir_face, hface, Node.isDir_face]
  exact hslash hs

theorem isDir_eq (h : SameTree fs fs') (path : Path) : fs'.isDir path = fs.isDir path := by
  rw [Bool.eq_iff_iff]
  exact ⟨h.symm.grows.isDir, h.grows.isDir⟩

theorem pathExists_of (h : SameTree fs fs') (hpath : fs.pathExists path = true) :
    fs'.pathExists path = true := by
  obtain ⟨place, node, hresolve⟩ := pathExists_iff.1 hpath
  obtain ⟨node', hresolve', -⟩ := h.exists_resolve hresolve
  exact pathExists_iff.2 ⟨place, node', hresolve'⟩

end SameTree

/-! ## The whole copy -/

/-- A directory at one place, which a source leads to, that can be copied to where a target leads:
to names that are missing from another directory. -/
structure Copyable (fs : FileSystem) (source target : Path) (S dir : Place) (rest : List Name) :
    Prop where
  lacks : fs.Lacks target dir rest
  ne_nil : rest ≠ []
  outside : ¬ S <+: dir ++ Path.withoutDots rest
  plain : fs.PlainBelow S
  fitsFrom : fs.FitBelow S source
  fitsTo : fs.FitBelow S target

/-- What becomes of the files when a directory at one place is copied to another, and directories
are made on the way there. -/
structure Copied (S dir T : Place) (fs fs' : FileSystem) : Prop where
  proper : fs'.Proper
  copied : ∀ below, fs'.faceAt (T ++ below) = fs.faceAt (S ++ below)
  source : ∀ below, fs'.faceAt (S ++ below) = fs.faceAt (S ++ below)
  made : ∀ q, Between dir T q → fs'.faceAt q = some (.dir [])
  same : ∀ q, ¬ T <+: q → ¬ Between dir T q → fs'.faceAt q = fs.faceAt q

/-- Nothing is found where names are missing. -/
theorem Lacks.pathExists_eq_false (h : fs.Lacks path dir rest) (hne : rest ≠ [])
    (hfits : Path.Fits path) : fs.pathExists path = false := by
  obtain ⟨front, hnames, hfront⟩ := h.leads
  obtain ⟨name, more, rfl⟩ := List.exists_cons_of_ne_nil hne
  obtain ⟨hname, hfree⟩ := h.free name more rfl
  obtain ⟨es, hdir⟩ := hfront.exists_dir_place
  obtain ⟨links, hlocate⟩ := hfront.exists_locate hnames hne hfits
  rw [node?_append_singleton fs hdir] at hfree
  rw [pathExists, resolve, hlocate, walk_absent hdir hname hfree]
  cases more <;> rfl

theorem Lacks.of_sameTree (h : fs.Lacks path dir rest) (hsame : SameTree fs fs') :
    fs'.Lacks path dir rest := by
  obtain ⟨front, hnames, hfront⟩ := h.leads
  refine ⟨⟨front, hnames, hfront.of_grows hsame.grows⟩, fun name more heq => ?_, h.down, h.last⟩
  obtain ⟨hname, hfree⟩ := h.free name more heq
  refine ⟨hname, ?_⟩
  rw [← faceAt_eq_none_iff, hsame, faceAt_eq_none_iff]
  exact hfree

theorem Copyable.of_sameTree (h : fs.Copyable source target S dir rest) (hsame : SameTree fs fs') :
    fs'.Copyable source target S dir rest where
  lacks := h.lacks.of_sameTree hsame
  ne_nil := h.ne_nil
  outside := h.outside
  plain := h.plain.of_same fun below => hsame (S ++ below)
  fitsFrom := h.fitsFrom.of_same fun below => hsame (S ++ below)
  fitsTo := h.fitsTo.of_same fun below => hsame (S ++ below)

/-- Copies of the same tree are the same tree. -/
theorem Copied.sameTree (h : Copied S dir T fs after) (h' : Copied S dir T fs' after')
    (hsame : SameTree fs fs') : SameTree after after' := by
  intro q
  by_cases hT : T <+: q
  · obtain ⟨below, rfl⟩ := hT
    rw [h.copied, h'.copied, hsame]
  · by_cases hbetween : Between dir T q
    · rw [h.made q hbetween, h'.made q hbetween]
    · rw [h.same q hT hbetween, h'.same q hT hbetween, hsame]

/-- Where an entry is missing, nothing is below. -/
theorem Copyable.not_isPrefix (h : fs.Copyable source target S dir rest)
    (hS : fs.node? S = some node) : ¬ dir ++ Path.withoutDots rest <+: S := by
  obtain ⟨name, more, rfl⟩ := List.exists_cons_of_ne_nil h.ne_nil
  obtain ⟨hname, hfree⟩ := h.lacks.free name more rfl
  rintro ⟨below, rfl⟩
  have hplace : dir ++ Path.withoutDots (name :: more) ++ below =
      dir ++ name :: (Path.withoutDots more ++ below) := by
    simp [Path.withoutDots, hname.1]
  have hnone := faceAt_below_of_none hfree (Path.withoutDots more ++ below)
  rw [hplace] at hS
  rw [faceAt, hS] at hnone
  contradiction

/-- A directory that can be copied is copied. -/
theorem Copyable.exists_copyTree (h : fs.Copyable source target S dir rest) (hfs : fs.Proper)
    (hsource : fs.resolve source = .ok (S, .dir es)) :
    ∃ after, fs.copyTree source target = (.ok (), after) ∧
      Copied S dir (dir ++ Path.withoutDots rest) fs after := by
  let T := dir ++ Path.withoutDots rest
  have hS := node?_of_resolve hsource
  have hself : fs.node? (S ++ []) = some (.dir es) := by rwa [List.append_nil]
  have happart : Apart S T := ⟨h.outside, h.not_isPrefix hS⟩
  obtain ⟨made, hmake, hbuilds, hthere⟩ := h.lacks.exists_makeDirAll (h.fitsTo [] _ hself)
  have hempty := hthere h.ne_nil
  have hextends := fs.extends_makeDirAll target
  rw [hmake] at hextends
  -- the directories that have been made are not in the one that is copied
  have hunmade (below : Place) : ¬ Between dir T (S ++ below) := by
    rintro ⟨-, -, hbegins⟩
    exact happart.1 ((List.prefix_append S below).trans hbegins)
  have hsame (below : Place) : made.faceAt (S ++ below) = fs.faceAt (S ++ below) :=
    hbuilds.same _ (hunmade below)
  have hproper := hextends.proper hfs
  have hfitsTo := h.fitsTo.of_same hsame
  obtain ⟨last, slash, hlocate, -⟩ := resolve_eq_ok_iff.1 hsource
  have hcan : made.CanCopy source target S T (Path.maxLength + 1) := by
    refine ⟨hproper, ?_, h.lacks.leadsToDir hextends.grows hempty, happart, ?_,
      h.plain.of_same hsame, h.fitsFrom.of_same hsame, hfitsTo⟩
    · exact (LeadsToDir.of_walks (walks_of_walk_eq (walk_of_locate hlocate)) rfl).of_grows
        hextends.grows
    · -- every level makes the path of the copy longer
      intro below node hnode
      have hsegments : ∀ name ∈ below, Path.IsSegment name := fun name hname =>
        (hproper.isFileName_of_mem hnode name (List.mem_append_right S hname)).2
      have hlength := Path.length_le_length_foldl_join hsegments target
      have hshort := (hfitsTo below node hnode).2
      omega
  obtain ⟨after, hcopy, hmirrors⟩ := copiesLevels (Path.maxLength + 1) hmake hcan hempty
  have hspreads := spreads_copyLevels (Path.maxLength + 1) hfs source target
  rw [hcopy] at hspreads
  refine ⟨after, hcopy, ?_⟩
  constructor
  case proper => exact hspreads.proper
  case copied =>
    intro below
    rw [hmirrors.copied, hsame]
  case source =>
    intro below
    rw [hmirrors.same _ (happart.not_isPrefix_append below), hsame]
  case made =>
    intro q hq
    by_cases hT : T <+: q
    · obtain rfl : T = q := hT.eq_of_length_le hq.2.2.length_le
      rw [← List.append_nil T, hmirrors.copied, hsame]
      exact faceAt_eq_dir_iff.2 ⟨es, hself⟩
    · rw [hmirrors.same q hT]
      exact hbuilds.made q hq
  case same =>
    intro q hT hq
    rw [hmirrors.same q hT, hbuilds.same q hq]

end FileSystem

namespace Builtin
open FileSystem (SameTree Copied)
open Dispatch (withEmptyDir)
open FileRequest (slashes locate_slashes isAbsolute_slashes)
variable {cwd : Path} {name arg : String} {others : List String} {fs : FileSystem}
  {S dir : Place} {es : Entries} {rest : List Name}

theorem destination_of_sameTree {fs' : FileSystem} (h : SameTree fs fs') (source target : Path) :
    destination fs' source target = destination fs source target := by
  rw [destination, destination, h.isDir_eq]

/-- A cp of a directory refuses to copy to where something is, and copies the tree if nothing is. -/
theorem runCp_of_dir (hsource : fs.resolve (Path.resolve cwd name) = .ok (S, .dir es))
    (arg : String) (others : List String) {target : Path}
    (htarget : destination fs (Path.resolve cwd name) (Path.resolve cwd arg) = target) :
    runCp cwd (name :: arg :: others) fs =
      if fs.pathExists target then (.error (.alreadyExists "Directory" (Utf8.lossy target)), fs)
      else reportChange ("Directory copied to " ++ Utf8.lossy target)
        (fs.copyTree (Path.resolve cwd name) target) := by
  have hexists := FileSystem.pathExists_iff.2 ⟨_, _, hsource⟩
  have hdir := FileSystem.isDir_iff.2 ⟨_, _, hsource⟩
  subst htarget
  rw [runCp, withDestination, withPath]
  simp [required, hexists, hdir]

theorem runCp_of_pathExists (hsource : fs.resolve (Path.resolve cwd name) = .ok (S, .dir es))
    (others : List String) {target : Path}
    (htarget : destination fs (Path.resolve cwd name) (Path.resolve cwd arg) = target)
    (hexists : fs.pathExists target = true) :
    runCp cwd (name :: arg :: others) fs =
      (.error (.alreadyExists "Directory" (Utf8.lossy target)), fs) := by
  rw [runCp_of_dir hsource arg others htarget, if_pos hexists]

theorem exists_runCp_of_copyable (hfs : fs.Proper)
    (hsource : fs.resolve (Path.resolve cwd name) = .ok (S, .dir es)) (others : List String)
    {target : Path}
    (htarget : destination fs (Path.resolve cwd name) (Path.resolve cwd arg) = target)
    (h : fs.Copyable (Path.resolve cwd name) target S dir rest) :
    ∃ after, runCp cwd (name :: arg :: others) fs =
        (.ok (.text ("Directory copied to " ++ Utf8.lossy target)), after) ∧
      Copied S dir (dir ++ Path.withoutDots rest) fs after := by
  have hself : fs.node? (S ++ []) = some (.dir es) := by
    rw [List.append_nil]
    exact FileSystem.node?_of_resolve hsource
  have hmissing := h.lacks.pathExists_eq_false h.ne_nil (h.fitsTo [] _ hself)
  obtain ⟨after, hcopy, hcopied⟩ := h.exists_copyTree hfs hsource
  refine ⟨after, ?_, hcopied⟩
  rw [runCp_of_dir hsource arg others htarget, hmissing, hcopy, reportChange_ok]
  exact if_neg Bool.false_ne_true

/-- A cp of a directory refuses to copy to where something is, and copies the directory with all
that lies below it to where nothing is. How directories order their entries makes no difference. -/
theorem directory_copied (hfs : fs.Proper) (cwd : Path) (name arg : String) (others : List String)
    (hsource : fs.resolve (Path.resolve cwd name) = .ok (S, .dir es)) :
    let source := Path.resolve cwd name
    let target := destination fs source (Path.resolve cwd arg)
    let run := runCp cwd (name :: arg :: others)
    (fs.pathExists target = true →
      run fs = (.error (.alreadyExists "Directory" (Utf8.lossy target)), fs)) ∧
    (∀ dir rest, fs.Copyable source target S dir rest →
      ∃ after, run fs = (.ok (.text ("Directory copied to " ++ Utf8.lossy target)), after) ∧
        Copied S dir (dir ++ Path.withoutDots rest) fs after) ∧
    ∀ fs', fs'.Proper → SameTree fs fs' →
      (fs.pathExists target = true ∨ ∃ dir rest, fs.Copyable source target S dir rest) →
      (run fs').1 = (run fs).1 ∧ SameTree (run fs).2 (run fs').2 := by
  intro source target run
  refine ⟨runCp_of_pathExists hsource others rfl, ?_, fun fs' hfs' hsame hcase => ?_⟩
  · exact fun dir rest h => exists_runCp_of_copyable hfs hsource others rfl h
  obtain ⟨node, hsource', hface⟩ := hsame.exists_resolve hsource
  obtain ⟨es', rfl⟩ := Node.face_eq_dir hface
  have htarget : destination fs' source (Path.resolve cwd arg) = target :=
    destination_of_sameTree hsame source (Path.resolve cwd arg)
  obtain hexists | ⟨dir, rest, h⟩ := hcase
  · have hrun := runCp_of_pathExists hsource others rfl hexists
    have hrun' := runCp_of_pathExists hsource' others htarget
      (hsame.pathExists_of hexists)
    dsimp only [run]
    rw [hrun, hrun']
    exact ⟨rfl, hsame⟩
  · obtain ⟨after, hrun, hcopied⟩ := exists_runCp_of_copyable hfs hsource others rfl h
    obtain ⟨after', hrun', hcopied'⟩ :=
      exists_runCp_of_copyable hfs' hsource' others htarget (h.of_sameTree hsame)
    dsimp only [run]
    rw [hrun, hrun']
    exact ⟨rfl, hcopied.sameTree hcopied' hsame⟩

/-- A directory with a directory and a file below it. -/
def withNestedDir : FileSystem :=
  ⟨[("a", .dir [("d", .dir [("f", .file [1] false)])])]⟩

theorem proper_withNestedDir : withNestedDir.Proper :=
  FileSystem.proper_of_passes (by decide)

theorem lacks_nested : withNestedDir.Lacks "/x/y" [] ["x", "y"] := by
  have hnames : Path.names "/x/y" = (["x", "y"] : Place) := by decide
  have hentry : Path.IsEntryName "x" ∧ Path.IsEntryName "y" := by decide
  refine ⟨⟨[], hnames, .nil rfl⟩, ?_, ?_, by decide⟩
  · rintro name more heq
    obtain ⟨rfl, -⟩ := List.cons.inj heq
    exact ⟨hentry.1, rfl⟩
  · simp [hentry]

theorem copyable_nested : withNestedDir.Copyable "/a" "/x/y" ["a"] [] ["x", "y"] where
  lacks := lacks_nested
  ne_nil := by simp
  outside := by decide
  plain below node h := by
    have hpassed :=
      FileSystem.test_of_node? (fun _ node => node.isDir || node.isFile) rfl (by decide) h
    simpa using hpassed
  fitsFrom below node h := of_decide_eq_true <| FileSystem.test_of_node?
    (fun below _ => decide (Path.Fits (below.foldl Path.join "/a"))) rfl (by decide) h
  fitsTo below node h := of_decide_eq_true <| FileSystem.test_of_node?
    (fun below _ => decide (Path.Fits (below.foldl Path.join "/x/y"))) rfl (by decide) h

theorem resolve_nested : withNestedDir.resolve "/a" =
    .ok (["a"], .dir [("d", .dir [("f", .file [1] false)])]) := by
  have hnames : Path.names "/a" = [] ++ [("a" : Name)] := by decide
  exact FileSystem.LeadsToDir.resolve_entry (.nil rfl) hnames (by decide) rfl
    rfl (by decide) (by decide)

/-- A directory is copied below one that is missing. -/
theorem directory_copied_nested : withNestedDir.Proper ∧
    withNestedDir.resolve "/a" = .ok (["a"], .dir [("d", .dir [("f", .file [1] false)])]) ∧
    withNestedDir.Copyable "/a" "/x/y" ["a"] [] ["x", "y"] ∧
    ∃ after, runCp "/" ["a", "x/y"] withNestedDir =
        (.ok (.text ("Directory copied to " ++ "/x/y")), after) ∧
      after.node? ["x", "y", "d", "f"] = some (.file [1] false) := by
  have hsource : Path.resolve "/" "a" = "/a" := by decide
  have htarget : Path.resolve "/" "x/y" = "/x/y" := by decide
  have hmissing : withNestedDir.pathExists "/x/y" = false :=
    lacks_nested.pathExists_eq_false (by simp) (by decide)
  have hdest : destination withNestedDir "/a" "/x/y" = "/x/y" := by
    refine destination_of_isDir_eq_false ?_ "/a"
    by_contra hdir
    obtain ⟨place, es, hresolve⟩ := FileSystem.isDir_iff.1 (by simpa using hdir)
    rw [FileSystem.pathExists_iff.2 ⟨_, _, hresolve⟩] at hmissing
    contradiction
  refine ⟨proper_withNestedDir, resolve_nested, copyable_nested, ?_⟩
  obtain ⟨-, hcopied, -⟩ := directory_copied proper_withNestedDir "/" "a" "x/y" []
    (hsource ▸ resolve_nested)
  rw [hsource, htarget, hdest, Utf8.lossy_encode] at hcopied
  obtain ⟨after, hrun, hcopied⟩ := hcopied _ _ copyable_nested
  refine ⟨after, hrun, ?_⟩
  have hface := hcopied.copied ["d", "f"]
  obtain ⟨node, hnode, hfile⟩ := Option.map_eq_some_iff.1 hface
  rw [← Node.face_eq_file hfile]
  exact hnode

/-! ## Destinations that nothing is copied to -/

/-- A cp of a directory fails with what comes of making the directories on the way. -/
theorem runCp_of_makeDirAll_error {target : Path} {e : IoError}
    (hsource : fs.resolve (Path.resolve cwd name) = .ok (S, .dir es))
    (htarget : Path.resolve cwd arg = target)
    (hlocate : ∀ lastLink, fs.locate lastLink target = .error e)
    (hmake : fs.makeDirAll target = (.error e, fs)) :
    fs.pathExists target = false ∧
      runCp cwd (name :: arg :: others) fs = (.error (.io e), fs) := by
  have hresolve := FileSystem.resolve_of_locate_error (hlocate .follow)
  have hmissing := FileSystem.pathExists_of_resolve_error hresolve
  have hdest : destination fs (Path.resolve cwd name) (Path.resolve cwd arg) = target := by
    rw [htarget]
    exact destination_of_isDir_eq_false (FileSystem.isDir_of_resolve_error hresolve) _
  have hcopy : fs.copyTree (Path.resolve cwd name) target = (.error e, fs) := by
    rw [FileSystem.copyTree, FileSystem.copyLevels, hmake]
  refine ⟨hmissing, ?_⟩
  rw [runCp_of_dir hsource arg others hdest, hmissing, hcopy, reportChange_error]
  exact if_neg Bool.false_ne_true

theorem resolve_emptyDir : withEmptyDir.resolve (Path.resolve "/" "d") = .ok (["d"], .dir []) := by
  have hpath : Path.resolve "/" "d" = "/d" := by decide
  have hnames : Path.names "/d" = [] ++ [("d" : Name)] := by decide
  rw [hpath]
  exact FileSystem.LeadsToDir.resolve_entry (.nil rfl) hnames (by decide) rfl
    rfl (by decide) (by decide)

/-- Nothing is found behind a name that is missing. -/
theorem locate_below_missing {path : Path} (hnames : Path.names path = ("x" : Name) :: rest)
    (hrest : rest ≠ []) (hfits : Path.Fits path) (lastLink : LastLink) :
    withEmptyDir.locate lastLink path = .error (.os .noEntry) := by
  have hentry : Path.IsEntryName "x" := by decide
  have hroot : withEmptyDir.LeadsToDir FileSystem.maxLinks [] [] [] := .nil rfl
  have hall : Path.names path = [] ++ ("x" : Name) :: rest := hnames
  obtain ⟨links, hlocate⟩ := hroot.exists_locate hall (List.cons_ne_nil _ rest) hfits
  rw [hlocate, FileSystem.walk_past_absent hrest rfl hentry rfl]
  rfl

/-- A dot below a directory that is missing cannot be made. -/
theorem runCp_to_dot : withEmptyDir.pathExists "/x/." = false ∧
    runCp "/" ["d", "x/."] withEmptyDir = (.error (.io (.os .noEntry)), withEmptyDir) := by
  have hnames : Path.names "/x/." = (["x", "."] : Place) := by decide
  have hparent : Path.parent? "/x/." = some "/" := by decide
  have hlocate := locate_below_missing hnames (by simp) (by decide)
  have hmake : withEmptyDir.makeDir "/x/." = (.error (.os .noEntry), withEmptyDir) := by
    rw [FileSystem.makeDir, hlocate]
  have hdir : withEmptyDir.isDir "/x/." = false :=
    FileSystem.isDir_of_resolve_error (FileSystem.resolve_of_locate_error (hlocate .follow))
  have hall : withEmptyDir.makeDirAll "/x/." = (.error (.os .noEntry), withEmptyDir) := by
    rw [FileSystem.makeDirAll_of_notFound (by decide) hmake (by decide) hparent,
      FileSystem.makeDirAll_of_isDir (by decide) (isDir_root withEmptyDir)]
    dsimp only
    rw [FileSystem.settleDir, hmake]
    simp [hdir]
  exact runCp_of_makeDirAll_error resolve_emptyDir (by decide) hlocate hall

/-- A path that leads up from a missing directory leads to the one above, once that has been
made. -/
theorem runCp_to_dotDot : withEmptyDir.pathExists "/x/.." = false ∧
    ∃ after, runCp "/" ["d", "x/.."] withEmptyDir =
        (.ok (.text ("Directory copied to " ++ "/x/..")), after) ∧
      after.readDir "/x/.." = .ok [("d", .dir []), ("x", .dir [])] := by
  let made : FileSystem := ⟨[("d", .dir []), ("x", .dir [])]⟩
  have hnames : Path.names "/x/.." = (["x", ".."] : Place) ∧
      Path.names "/x" = [] ++ [("x" : Name)] ∧
      Path.names "/d" = [] ++ [("d" : Name)] := by decide
  have hparent : Path.parent? "/x/.." = some "/x" := by decide
  have hentry : Path.IsEntryName "x" ∧ Path.IsEntryName "d" := by decide
  have hlocate := locate_below_missing hnames.1 (by simp) (by decide)
  have hresolve := FileSystem.resolve_of_locate_error (hlocate .follow)
  have hmissing := FileSystem.pathExists_of_resolve_error hresolve
  have hdest : destination withEmptyDir (Path.resolve "/" "d") (Path.resolve "/" "x/..") =
      "/x/.." := by
    have htarget : Path.resolve "/" "x/.." = "/x/.." := by decide
    rw [htarget]
    exact destination_of_isDir_eq_false (FileSystem.isDir_of_resolve_error hresolve) _
  have hmake : withEmptyDir.makeDir "/x/.." = (.error (.os .noEntry), withEmptyDir) := by
    rw [FileSystem.makeDir, hlocate]
  have habove : withEmptyDir.makeDirAll "/x" = (.ok (), made) :=
    (FileSystem.makeDirAll_of_free (.nil rfl) hnames.2.1 hentry.1 rfl (by decide)).1
  -- the way goes down into the new directory and up again
  have hway : made.LeadsToDir FileSystem.maxLinks [] (Path.names "/x/..") [] := by
    rw [hnames.1]
    exact .down hentry.1 (.dotDot rfl (.nil rfl))
  obtain ⟨es, hup⟩ := hway.resolve (by decide) (by decide)
  have hsettle : made.settleDir "/x/.." = (.ok (), made) := by
    have hdir : made.isDir "/x/.." = true := FileSystem.isDir_iff.2 ⟨_, _, hup⟩
    rw [FileSystem.settleDir, FileSystem.makeDir_of_isDir hdir]
    simp [hdir]
  have hall : withEmptyDir.makeDirAll "/x/.." = (.ok (), made) := by
    rw [FileSystem.makeDirAll_of_notFound (by decide) hmake (by decide) hparent, habove]
    exact hsettle
  have hread : made.readDir "/d" = .ok [] :=
    FileSystem.readDir_eq_ok_iff.2 ⟨["d"], FileSystem.LeadsToDir.resolve_entry (.nil rfl)
      hnames.2.2 hentry.2 rfl rfl (by decide) (by decide)⟩
  have hcopy : withEmptyDir.copyTree (Path.resolve "/" "d") "/x/.." = (.ok (), made) := by
    have hsource : Path.resolve "/" "d" = "/d" := by decide
    rw [FileSystem.copyTree, FileSystem.copyLevels, hall, hsource]
    simp only [hread]
    rfl
  obtain rfl : made.entries = es := Node.dir.inj (Option.some.inj (FileSystem.node?_of_resolve hup))
  refine ⟨hmissing, made, ?_, FileSystem.readDir_eq_ok_iff.2 ⟨[], hup⟩⟩
  rw [runCp_of_dir resolve_emptyDir "x/.." [] hdest, hmissing, hcopy, reportChange_ok,
    Utf8.lossy_encode]
  exact if_neg Bool.false_ne_true

/-- A path of slashes and a name is too long. -/
theorem runCp_to_slashes : withEmptyDir.pathExists (slashes 4095 ++ "f" : String) = false ∧
    runCp "/" ["d", slashes 4095 ++ "f"] withEmptyDir =
      (.error (.io (.os .nameTooLong)), withEmptyDir) := by
  have habs : Path.isAbsolute (slashes 4095 ++ "f" : String) = true := by
    rw [Utf8.encode_append]
    exact Path.isAbsolute_append (isAbsolute_slashes 4094) _
  have hlocate := locate_slashes (Nat.le_refl Path.maxLength) withEmptyDir
  have hall :=
    FileSystem.makeDirAll_of_locate_error (Path.components_ne_nil habs) hlocate (by decide)
  exact runCp_of_makeDirAll_error resolve_emptyDir (Path.join_of_isAbsolute habs "/") hlocate hall

/-- A name that no entry can have. -/
def longName : String :=
  String.ofList (List.replicate 256 'b')

theorem encode_longName : Utf8.encode longName = List.replicate 256 0x62 :=
  Utf8.encode_replicate (by decide) 256

/-- No walk gets past a name that is too long. -/
theorem walk_of_long {lastLink : LastLink} {links : ℕ} {here : Place} {slash : Bool} {name : Name}
    (h : fs.node? here = some (.dir es)) (hlong : Path.maxNameLength < name.length) :
    fs.walk lastLink links here (name :: rest) slash = .error .nameTooLong := by
  have hshort : [Path.dot].length ≤ Path.maxNameLength ∧
      [Path.dot, Path.dot].length ≤ Path.maxNameLength := by decide
  have hdot : name ≠ [Path.dot] := by
    rintro rfl
    omega
  have hdots : name ≠ [Path.dot, Path.dot] := by
    rintro rfl
    omega
  rw [FileSystem.walk, h]
  simp [Node.isDir, hdot, hdots, hlong]

/-- An entry with too long a name cannot be made. -/
theorem runCp_to_longName : withEmptyDir.pathExists (Path.resolve "/" longName) = false ∧
    runCp "/" ["d", longName] withEmptyDir =
      (.error (.io (.os .nameTooLong)), withEmptyDir) := by
  have hsize : (Utf8.encode longName).length = 256 := by
    rw [encode_longName, List.length_replicate]
  have hnot {b : UInt8} (hb : b ≠ 0x62) : b ∉ Utf8.encode longName := by
    rw [encode_longName, List.mem_replicate]
    exact fun hmem => hb hmem.2
  have hsegment : Path.IsSegment longName := by
    refine ⟨fun hnil => ?_, hnot (by decide)⟩
    rw [hnil] at hsize
    contradiction
  have hpath : Path.resolve "/" longName = Path.slash :: Utf8.encode longName := by
    rw [Path.resolve, Path.join, hsegment.isAbsolute_eq_false]
    rfl
  have hnames : Path.names (Path.slash :: Utf8.encode longName) =
      [] ++ [Utf8.encode longName] := by
    rw [← hpath, Path.resolve, Path.names_join hsegment]
    rfl
  have hlong : Path.maxNameLength < (Utf8.encode longName).length := by
    rw [hsize]
    decide
  have hfits : Path.Fits (Path.slash :: Utf8.encode longName) := by
    constructor
    · exact List.not_mem_cons_of_ne_of_not_mem (by decide) (hnot (by decide))
    · rw [List.length_cons, hsize]
      decide
  have hroot : withEmptyDir.LeadsToDir FileSystem.maxLinks [] [] [] := .nil rfl
  obtain ⟨links, hwalk⟩ := hroot.exists_locate hnames (by simp) hfits
  have hlocate (lastLink : LastLink) :
      withEmptyDir.locate lastLink (Path.slash :: Utf8.encode longName) =
        .error (.os .nameTooLong) := by
    rw [hwalk, walk_of_long rfl hlong]
    rfl
  have hall := FileSystem.makeDirAll_of_locate_error (Path.components_ne_nil rfl) hlocate
    (by decide)
  rw [hpath]
  exact runCp_of_makeDirAll_error resolve_emptyDir hpath hlocate hall

/-- A directory is not copied to every path by which nothing is found: not to one with a dot at its
end or with a step up behind a name that is missing, nor to one that the system does not take. -/
theorem directory_not_copied : withEmptyDir.resolve "/d" = .ok (["d"], .dir []) ∧
    (withEmptyDir.pathExists "/x/." = false ∧
      runCp "/" ["d", "x/."] withEmptyDir = (.error (.io (.os .noEntry)), withEmptyDir)) ∧
    (withEmptyDir.pathExists "/x/.." = false ∧
      ∃ after, runCp "/" ["d", "x/.."] withEmptyDir =
          (.ok (.text ("Directory copied to " ++ "/x/..")), after) ∧
        after.readDir "/x/.." = .ok [("d", .dir []), ("x", .dir [])]) ∧
    (withEmptyDir.pathExists (slashes 4095 ++ "f" : String) = false ∧
      runCp "/" ["d", slashes 4095 ++ "f"] withEmptyDir =
        (.error (.io (.os .nameTooLong)), withEmptyDir)) ∧
    (withEmptyDir.pathExists (Path.resolve "/" longName) = false ∧
      runCp "/" ["d", longName] withEmptyDir =
        (.error (.io (.os .nameTooLong)), withEmptyDir)) :=
  ⟨resolve_emptyDir, runCp_to_dot, runCp_to_dotDot, runCp_to_slashes, runCp_to_longName⟩

end Builtin
end LineShell
