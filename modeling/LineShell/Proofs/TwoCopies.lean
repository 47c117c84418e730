import LineShell.Proofs.FileEffects
import LineShell.Proofs.TwoWays

/-!
# Copies by two ways

What is done at a path depends on where it leads, so it comes to the same at two paths that lead to
the same. A copy of a directory looks up one path after the other while the file system grows. Of
two copies that are told of one source and one target by two ways each looks up what the other does,
so that they come to the same, unless one of them meets a limit.
-/
namespace LineShell.FileSystem
variable {fs : FileSystem}

/-! ## One lookup -/

namespace FollowsAlike
variable {path path' : Path} (h : fs.FollowsAlike path path')
include h

theorem resolve_eq : fs.resolve path = fs.resolve path' := by
  rw [resolve, resolve, h]

theorem pathExists_eq : fs.pathExists path = fs.pathExists path' := by
  rw [pathExists, pathExists, h.resolve_eq]

theorem isDir_eq : fs.isDir path = fs.isDir path' := by
  rw [isDir, isDir, h.resolve_eq]

theorem readText_eq : fs.readText path = fs.readText path' := by
  rw [readText, readText, read, read, h.resolve_eq]

theorem readDir_eq : fs.readDir path = fs.readDir path' := by
  rw [readDir, readDir, h.resolve_eq]

theorem update_eq (g : Bytes → Bytes) (executable : Bool) (mode : Bool → Bool) :
    fs.update path g executable mode = fs.update path' g executable mode := by
  rw [update, update, h]

theorem makeDir_eq : fs.makeDir path = fs.makeDir path' := by
  rw [makeDir, makeDir, h]

theorem removeFile_eq : fs.removeFile path = fs.removeFile path' := by
  rw [removeFile, removeFile, h]

theorem rename_eq {target target' : Path} (htarget : fs.FollowsAlike target target') :
    fs.rename path target = fs.rename path' target' := by
  rw [rename, rename, h, htarget]

end FollowsAlike

/-! ## Making directories -/

/-- Makes a directory where there may be one already. -/
def settleDir (fs : FileSystem) (path : Path) : Change Unit :=
  match fs.makeDir path with
  | (.ok (), made) => (.ok (), made)
  | (.error e, _) => if fs.isDir path then (.ok (), fs) else (.error e, fs)

theorem FollowsAlike.settleDir_eq {path path' : Path} (h : fs.FollowsAlike path path') :
    fs.settleDir path = fs.settleDir path' := by
  rw [settleDir, settleDir, h.makeDir_eq, h.isDir_eq]

theorem makeDirAll_eq_settleDir {path : Path} (hne : Path.components path ≠ [])
    (h : ∀ e, (fs.makeDir path).1 = .error e → e.isNotFound = false) :
    fs.makeDirAll path = fs.settleDir path := by
  rw [makeDirAll, settleDir, if_neg (by simpa using hne)]
  obtain ⟨e, herror⟩ | ⟨dir, name, slash, hlocate, hmake⟩ := fs.makeDir_eq path
  · rw [herror] at h ⊢
    simp [h e rfl]
  · rw [hmake]

theorem makeDirAll_of_notFound {path parent : Path} {e : IoError} (hne : Path.components path ≠ [])
    (hmake : fs.makeDir path = (.error e, fs)) (he : e.isNotFound = true)
    (hparent : Path.parent? path = some parent) :
    fs.makeDirAll path =
      match fs.makeDirAll parent with
      | (.error e, after) => (.error e, after)
      | (.ok (), after) => after.settleDir path := by
  rw [makeDirAll, if_neg (by simpa using hne), hmake]
  simp only [he, if_true]
  split
  · next hnone =>
    rw [hparent] at hnone
    contradiction
  · next found hfound =>
    obtain rfl := Option.some.inj (hparent.symm.trans hfound)
    obtain ⟨e | ⟨⟩, after⟩ := fs.makeDirAll parent
    · rfl
    · dsimp only
      rw [settleDir]
      obtain ⟨e, herror⟩ | ⟨dir, name, slash, hlocate, hmake⟩ := after.makeDir_eq path
      · rw [herror]
      · rw [hmake]

/-- Where a directory is, none can be made. -/
theorem makeDir_of_isDir {path : Path} (h : fs.isDir path = true) :
    fs.makeDir path = (.error (.os .entryExists), fs) := by
  obtain ⟨place, es, last, slash, hfollow⟩ := exists_locate_of_isDir h
  obtain ⟨b, hkeep⟩ := exists_locate_of_follow hfollow .keep
  rw [makeDir, hkeep]
  cases b with
  | found => rfl
  | missing dir name s =>
    have hmissing := locate_follow hkeep (by simp [Arrival.node?])
    cases hfollow.symm.trans hmissing

theorem makeDirAll_of_isDir {path : Path} (hne : Path.components path ≠ [])
    (h : fs.isDir path = true) : fs.makeDirAll path = (.ok (), fs) := by
  have hmake := makeDir_of_isDir h
  have hfound : (IoError.os .entryExists).isNotFound = false := by decide
  rw [makeDirAll_eq_settleDir hne (by simp [hmake, hfound]), settleDir, hmake]
  simp [h]

/-- Of the paths that are looked up, each in a file system, none meets a limit. -/
def Unlimited (asks : FileSystem → Path → Prop) : Prop :=
  ∀ fs path, asks fs path → fs.Within path

/-- The paths that are looked up when a directory is made with those above it that are missing, each
in the file system as it is then. -/
inductive MakeDirAllAsks : FileSystem → Path → FileSystem → Path → Prop
  | self {fs : FileSystem} {path : Path} : MakeDirAllAsks fs path fs path
  | parent {fs fs' : FileSystem} {path parent asked : Path} {e : IoError} :
      fs.makeDir path = (.error e, fs) → e.isNotFound = true → Path.parent? path = some parent →
      MakeDirAllAsks fs parent fs' asked → MakeDirAllAsks fs path fs' asked
  | again {fs made : FileSystem} {path parent : Path} {e : IoError} :
      fs.makeDir path = (.error e, fs) → e.isNotFound = true → Path.parent? path = some parent →
      fs.makeDirAll parent = (.ok (), made) → MakeDirAllAsks fs path made path

variable {place : Place} {base base' : Path}

theorem makeDirAll_join_eq (h : fs.Reaches base place) (h' : fs.Reaches base' place) {path : Path}
    (hpath : Path.Counts path) (hwithin : Unlimited (MakeDirAllAsks fs (Path.join base path)))
    (hwithin' : Unlimited (MakeDirAllAsks fs (Path.join base' path))) :
    fs.makeDirAll (Path.join base path) = fs.makeDirAll (Path.join base' path) := by
  induction hn : (Path.join base path).length using Nat.strong_induction_on
    generalizing path with
  | _ n ih =>
  cases habs : Path.isAbsolute path with
  | true => rw [Path.join_of_isAbsolute habs, Path.join_of_isAbsolute habs]
  | false =>
    have halike := h.followsAlike h' hpath (hwithin _ _ .self) (hwithin' _ _ .self)
    have hne := Path.components_ne_nil (Path.isAbsolute_join h.absolute path)
    have hne' := Path.components_ne_nil (Path.isAbsolute_join h'.absolute path)
    by_cases hfound : ∀ e, (fs.makeDir (Path.join base path)).1 = .error e → e.isNotFound = false
    · have hfound' := hfound
      rw [halike.makeDir_eq] at hfound'
      rw [makeDirAll_eq_settleDir hne hfound, makeDirAll_eq_settleDir hne' hfound',
        halike.settleDir_eq]
    · push Not at hfound
      obtain ⟨e, herror, hnot⟩ := hfound
      have he : e.isNotFound = true := by simpa using hnot
      have hmake := makeDir_eq_of_error herror
      have hmake' := hmake
      rw [halike.makeDir_eq] at hmake'
      have hparent := Path.parent?_join h.absolute habs (hpath habs)
      have hparent' := Path.parent?_join h'.absolute habs (hpath habs)
      rw [makeDirAll_of_notFound hne hmake he hparent,
        makeDirAll_of_notFound hne' hmake' he hparent']
      cases hfront : Path.front? path with
      | none =>
        rw [hfront, Option.elim_none] at hparent hparent'
        have hdir := h.trunk.isDir (hwithin _ _ (.parent hmake he hparent .self))
        have hdir' := h'.trunk.isDir (hwithin' _ _ (.parent hmake' he hparent' .self))
        rw [Option.elim_none, Option.elim_none,
          makeDirAll_of_isDir (Path.components_ne_nil h.trunk.absolute) hdir,
          makeDirAll_of_isDir (Path.components_ne_nil h'.trunk.absolute) hdir']
        exact halike.settleDir_eq
      | some front =>
        rw [hfront, Option.elim_some] at hparent hparent'
        have hlength := Path.length_parent?_lt hparent
        have hparents := ih _ (hn ▸ hlength) (fun _ => Path.counted_of_front? hfront)
          (fun fs' asked hasked => hwithin _ _ (.parent hmake he hparent hasked))
          (fun fs' asked hasked => hwithin' _ _ (.parent hmake' he hparent' hasked)) rfl
        have hgrows := (fs.extends_makeDirAll (Path.join base' front)).grows
        rw [Option.elim_some, Option.elim_some, hparents]
        rcases hmade : fs.makeDirAll (Path.join base' front) with ⟨e' | ⟨⟩, made⟩
        · rfl
        · rw [hmade] at hgrows hparents
          exact ((h.of_grows hgrows).followsAlike (h'.of_grows hgrows) hpath
            (hwithin _ _ (.again hmake he hparent hparents))
            (hwithin' _ _ (.again hmake' he hparent' hmade))).settleDir_eq

/-! ## Copying -/

/-- The paths that are looked up when a file is copied. -/
inductive CopyFileAsks (fs : FileSystem) (source target : Path) : FileSystem → Path → Prop
  | source : CopyFileAsks fs source target fs source
  | target {origin : Place} {content : Bytes} {executable : Bool} :
      fs.resolve source = .ok (origin, .file content executable) →
      CopyFileAsks fs source target fs target
  | again {origin : Place} {content left : Bytes} {executable executable' : Bool}
      {emptied : FileSystem} :
      fs.resolve source = .ok (origin, .file content executable) →
      fs.update target (fun _ => []) executable (fun _ => executable) = (.ok (), emptied) →
      emptied.node? origin = some (.file left executable') →
      CopyFileAsks fs source target emptied target

/-- The paths that are looked up when entries of a directory are copied. -/
def CopyEntriesAsks (copyDir : FileSystem → Path → Path → Change Unit)
    (asksDir : FileSystem → Path → Path → FileSystem → Path → Prop) (source target : Path) :
    FileSystem → Entries → FileSystem → Path → Prop
  | _, [], _, _ => False
  | fs, (name, node) :: rest, fs', asked =>
    (if node.isDir then asksDir else CopyFileAsks) fs (Path.join source name)
        (Path.join target name) fs' asked ∨
      ∃ after, (if node.isDir then copyDir else copyFile) fs (Path.join source name)
        (Path.join target name) = (.ok (), after) ∧
        CopyEntriesAsks copyDir asksDir source target after rest fs' asked

/-- The paths that are looked up when a directory is copied with what lies at most `depth` levels
below. -/
def CopyLevelsAsks : ℕ → FileSystem → Path → Path → FileSystem → Path → Prop
  | 0, _, _, _, _, _ => False
  | depth + 1, fs, source, target, fs', asked =>
    MakeDirAllAsks fs target fs' asked ∨
      ∃ made, fs.makeDirAll target = (.ok (), made) ∧
        ((fs' = made ∧ asked = source) ∨
          ∃ entries, made.readDir source = .ok entries ∧
            CopyEntriesAsks (copyLevels depth) (CopyLevelsAsks depth) source target made entries
              fs' asked)

/-- Of two copies that are told of one source and one target by two ways, both come to the same if
neither meets a limit. -/
def CopiesAlike (copy : FileSystem → Path → Path → Change Unit)
    (asks : FileSystem → Path → Path → FileSystem → Path → Prop) : Prop :=
  ∀ ⦃fs : FileSystem⦄ ⦃place : Place⦄ ⦃base base' : Path⦄, fs.Reaches base place →
    fs.Reaches base' place → ∀ ⦃source target : Path⦄, Path.Counts source → Path.Counts target →
    Unlimited (asks fs (Path.join base source) (Path.join base target)) →
    Unlimited (asks fs (Path.join base' source) (Path.join base' target)) →
    copy fs (Path.join base source) (Path.join base target) =
      copy fs (Path.join base' source) (Path.join base' target)

theorem copiesAlike_copyFile : CopiesAlike copyFile CopyFileAsks := by
  intro fs place base base' h h' source target hsource htarget hwithin hwithin'
  have hresolve := (h.followsAlike h' hsource (hwithin _ _ .source)
    (hwithin' _ _ .source)).resolve_eq
  rw [copyFile, copyFile, hresolve]
  split
  · rfl
  · next origin content executable hfile' =>
    have hfile := hresolve.trans hfile'
    have hempty := (h.followsAlike h' htarget (hwithin _ _ (.target hfile))
      (hwithin' _ _ (.target hfile'))).update_eq (fun _ => []) executable fun _ => executable
    have hgrows := fs.grows_update (Path.join base' target) (fun _ => []) executable
      fun _ => executable
    rw [hempty]
    rcases hemptied : fs.update (Path.join base' target) (fun _ => []) executable
      fun _ => executable with ⟨e | ⟨⟩, emptied⟩
    · rfl
    · rw [hemptied] at hempty hgrows
      dsimp only
      split
      · next left executable' hleft =>
        exact ((h.of_grows hgrows).followsAlike (h'.of_grows hgrows) htarget
          (hwithin _ _ (.again hfile hempty hleft))
          (hwithin' _ _ (.again hfile' hemptied hleft))).update_eq _ _ _
      · rfl
  · rfl

theorem copiesAlike_copyEntries {copyDir : FileSystem → Path → Path → Change Unit}
    {asksDir : FileSystem → Path → Path → FileSystem → Path → Prop}
    (hdir : CopiesAlike copyDir asksDir)
    (hcopy : ∀ fs source target, Grows fs (copyDir fs source target).2) (es : Entries) :
    CopiesAlike (fun fs source target => copyEntries copyDir source target fs es)
      fun fs source target => CopyEntriesAsks copyDir asksDir source target fs es := by
  intro fs place base base' h h' source target hsource htarget hwithin hwithin'
  induction es generalizing fs with
  | nil => rfl
  | cons e rest ih =>
    obtain ⟨name, node⟩ := e
    have halike : CopiesAlike (if node.isDir then copyDir else copyFile)
        (if node.isDir then asksDir else CopyFileAsks) := by
      split
      · exact hdir
      · exact copiesAlike_copyFile
    have hgrows : Grows fs ((if node.isDir then copyDir else copyFile) fs
        (Path.join (Path.join base source) name) (Path.join (Path.join base target) name)).2 := by
      split
      · exact hcopy _ _ _
      · exact grows_copyFile _ _ _
    simp only [copyEntries, CopyEntriesAsks, Path.join_assoc] at hwithin hwithin' hgrows ⊢
    have heq := halike h h' (hsource.join name) (htarget.join name)
      (fun fs' asked hasked => hwithin _ _ (.inl hasked))
      (fun fs' asked hasked => hwithin' _ _ (.inl hasked))
    rw [heq] at hgrows ⊢
    rcases hafter : (if node.isDir then copyDir else copyFile) fs
      (Path.join base' (Path.join source name)) (Path.join base' (Path.join target name))
      with ⟨e | ⟨⟩, after⟩
    · rfl
    · rw [hafter] at heq hgrows
      exact ih (h.of_grows hgrows) (h'.of_grows hgrows)
        (fun fs' asked hasked => hwithin _ _ (.inr ⟨after, heq, hasked⟩))
        (fun fs' asked hasked => hwithin' _ _ (.inr ⟨after, hafter, hasked⟩))

theorem copiesAlike_copyLevels (depth : ℕ) :
    CopiesAlike (copyLevels depth) (CopyLevelsAsks depth) := by
  induction depth with
  | zero => exact fun fs _ _ _ _ _ _ _ _ _ _ _ => rfl
  | succ depth ih =>
    intro fs place base base' h h' source target hsource htarget hwithin hwithin'
    have hmake := makeDirAll_join_eq h h' htarget
      (fun fs' asked hasked => hwithin _ _ (.inl hasked))
      (fun fs' asked hasked => hwithin' _ _ (.inl hasked))
    have hgrows := (fs.extends_makeDirAll (Path.join base' target)).grows
    rw [copyLevels, copyLevels, hmake]
    rcases hmade : fs.makeDirAll (Path.join base' target) with ⟨e | ⟨⟩, made⟩
    · rfl
    · rw [hmade] at hmake hgrows
      have hread := ((h.of_grows hgrows).followsAlike (h'.of_grows hgrows) hsource
        (hwithin _ _ (.inr ⟨made, hmake, .inl ⟨rfl, rfl⟩⟩))
        (hwithin' _ _ (.inr ⟨made, hmade, .inl ⟨rfl, rfl⟩⟩))).readDir_eq
      dsimp only
      rw [hread]
      cases hentries : made.readDir (Path.join base' source) with
      | error e => rfl
      | ok entries =>
        rw [hentries] at hread
        exact copiesAlike_copyEntries ih (fun fs s t => fs.grows_copyLevels s t depth) entries
          (h.of_grows hgrows) (h'.of_grows hgrows) hsource htarget
          (fun fs' asked hasked => hwithin _ _ (.inr ⟨made, hmake, .inr ⟨entries, hread, hasked⟩⟩))
          (fun fs' asked hasked =>
            hwithin' _ _ (.inr ⟨made, hmade, .inr ⟨entries, hentries, hasked⟩⟩))

end LineShell.FileSystem
