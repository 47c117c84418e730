import LineShell.FileSystem.Copy
import LineShell.Proofs.Creation
import LineShell.Proofs.Names
import LineShell.Proofs.Routes

/-!
# What a copy changes

Copying into a path makes directories and writes files that the path, or one that goes on from it,
leads to. A file whose content is not kept is one of these. If the path leads to a directory that is
new, then so is everything that is found from there, since what is new is no link; the content of
every file that was there before is kept.
-/
namespace LineShell
namespace FileSystem
variable {fs fs' fs'' : FileSystem} {path source target : Path} {place dest q : Place}
  {content : Bytes}

theorem isFile_of_contentAt (h : fs.contentAt place = some content) :
    ∃ x, fs.node? place = some (.file content x) := by
  rw [contentAt, Option.bind_eq_some_iff] at h
  obtain ⟨node, hnode, hcontent⟩ := h
  cases node with
  | file bytes x =>
    obtain rfl : bytes = content := Option.some.inj hcontent
    exact ⟨x, hnode⟩
  | _ => contradiction

/-! ## Directories that are made -/

/-- What becomes of a file system to which nothing but directories is added. -/
structure Extends (fs fs' : FileSystem) : Prop where
  grows : Grows fs fs'
  contentAt_eq : ∀ q, (fs.contentAt q).isSome = true → fs'.contentAt q = fs.contentAt q
  proper : fs.Proper → fs'.Proper

namespace Extends

theorem refl (fs : FileSystem) : Extends fs fs :=
  ⟨.refl fs, fun _ _ => rfl, id⟩

theorem trans (h : Extends fs fs') (h' : Extends fs' fs'') : Extends fs fs'' := by
  refine ⟨h.grows.trans h'.grows, fun q hq => ?_, h'.proper ∘ h.proper⟩
  have hsame := h.contentAt_eq q hq
  exact (h'.contentAt_eq q (hsame ▸ hq)).trans hsame

end Extends

/-- A node that is put where a path leads, and where nothing is, leaves all names proper. -/
theorem Proper.put_missing {lastLink : LastLink} {dir : Place} {name : Name} {slash : Bool}
    {node : Node} (hfs : fs.Proper)
    (h : fs.locate lastLink path = .ok (.missing dir name slash)) (hnode : node.Childless) :
    (fs.put (dir ++ [name]) node).Proper := by
  obtain ⟨es, hdir⟩ := exists_dir_of_missing h
  have hwalks := walks_of_walk_eq (walk_of_locate h)
  have hname : Path.IsFileName name :=
    hwalks.isFileName_of_mem_site (fun _ => Path.isSegment_of_mem_names) (by simp) name
      (by simp [Arrival.site])
  exact hfs.put hdir (fun _ => hname) hnode

theorem extends_makeDir (fs : FileSystem) (path : Path) : Extends fs (fs.makeDir path).2 := by
  obtain ⟨e, herror⟩ | ⟨dir, name, slash, hlocate, hmake⟩ := fs.makeDir_eq path
  · rw [herror]
    exact .refl fs
  · rw [hmake]
    have hadds := adds_put hlocate Node.childless_empty
    refine ⟨hadds.grows rfl, fun q hq => hadds.same.contentAt_eq ?_, fun hfs => ?_⟩
    · rintro rfl
      simp [contentAt, hadds.absent] at hq
    · exact hfs.put_missing hlocate Node.childless_empty

theorem extends_of_makeDir_eq {r : Except IoError Unit} (h : fs.makeDir path = (r, fs')) :
    Extends fs fs' := by
  have hmake := fs.extends_makeDir path
  rwa [h] at hmake

theorem extends_makeDirAll (fs : FileSystem) (path : Path) : Extends fs (fs.makeDirAll path).2 := by
  fun_induction makeDirAll fs path with
  | case1 fs => exact .refl fs
  | case2 fs path _ fs₁ hmake => exact extends_of_makeDir_eq hmake
  | case3 fs path _ e fs₁ hmake => exact extends_of_makeDir_eq hmake
  | case4 fs path _ e fs₁ hmake _ parent _ _ e' fs₂ hparent ih =>
    rw [hparent] at ih
    exact (extends_of_makeDir_eq hmake).trans ih
  | case5 fs path _ e fs₁ hmake _ parent _ _ fs₂ hparent fs₃ hlast ih =>
    rw [hparent] at ih
    exact ((extends_of_makeDir_eq hmake).trans ih).trans (extends_of_makeDir_eq hlast)
  | case6 fs path _ e fs₁ hmake _ parent _ _ fs₂ hparent e' fs₃ hlast _ ih =>
    rw [hparent] at ih
    exact ((extends_of_makeDir_eq hmake).trans ih).trans (extends_of_makeDir_eq hlast)
  | case7 fs path _ e fs₁ hmake _ parent _ _ fs₂ hparent e' fs₃ hlast _ ih =>
    rw [hparent] at ih
    exact ((extends_of_makeDir_eq hmake).trans ih).trans (extends_of_makeDir_eq hlast)
  | case8 fs path _ e fs₁ hmake => exact extends_of_makeDir_eq hmake
  | case9 fs path _ e fs₁ hmake => exact extends_of_makeDir_eq hmake

/-! ## Files that are copied -/

theorem SameButFile.trans (h : SameButFile place fs fs') (h' : SameButFile place fs' fs'') :
    SameButFile place fs fs'' :=
  ⟨fun q hq => (h'.same q hq).trans (h.same q hq), h.before, h'.after⟩

/-- What copying a file comes to, as the target can be opened or not. What is copied is what is left
of the file when the target has been emptied. -/
theorem copyFile_of_file {x : Bool} (h : fs.resolve source = .ok (place, .file content x))
    (target : Path) :
    (∃ e, fs.copyFile source target = (.error e, fs)) ∧ fs.sink? target = none ∨
    fs.sink? target = some .device ∧ fs.copyFile source target = (.ok (), fs) ∨
    ∃ dest after, fs.sink? target = some (.file dest) ∧
      fs.copyFile source target = (.ok (), after) ∧ SameButFile dest fs after ∧
      after.contentAt dest = some (if dest = place then [] else content) := by
  have hnode := node?_of_resolve h
  rw [copyFile, h]
  simp only
  obtain ⟨⟨e, herror⟩, hnone⟩ | ⟨hdevice, hupdate⟩ | ⟨dest, old, y, new, hopens, hupdate⟩ :=
    fs.update_cases target (fun _ => []) x fun _ => x
  · exact .inl ⟨⟨e, by rw [herror]⟩, hnone⟩
  · refine .inr (.inl ⟨hdevice, ?_⟩)
    rw [hupdate]
    simp only [hnode]
    exact update_of_leadsToDevice (sink?_eq_device_iff.1 hdevice) _
  · rw [hupdate]
    obtain ⟨hempty, hsame⟩ := hopens.put [] new
    have hsink := sink?_eq_file_iff.2 ⟨old, y, hopens⟩
    have hleft : (fs.put dest (.file [] new)).contentAt place =
        some (if dest = place then [] else content) := by
      by_cases hdest : dest = place
      · rw [if_pos hdest, ← hdest, hempty]
      · rw [if_neg hdest, hsame.contentAt_eq (Ne.symm hdest), contentAt, hnode]
        rfl
    obtain ⟨z, hleft⟩ := isFile_of_contentAt hleft
    obtain ⟨after, hwrite, hcontent, hsame'⟩ :=
      update_of_sink?_eq_file ((hsame.sink?_eq target).trans hsink)
        (· ++ if dest = place then [] else content)
    rw [hempty, Option.getD_some, List.nil_append] at hcontent
    simp only [hleft]
    exact .inr (.inr ⟨dest, after, hsink, hwrite, hsame.trans hsame', hcontent⟩)

/-- Nothing but files can be copied as files. -/
theorem copyFile_of_not_file
    (h : ∀ place content x, fs.resolve source ≠ .ok (place, .file content x)) (target : Path) :
    ∃ e, fs.copyFile source target = (.error e, fs) := by
  rw [copyFile]
  cases hresolve : fs.resolve source with
  | error e => exact ⟨e, rfl⟩
  | ok found =>
    obtain ⟨place, node⟩ := found
    cases node with
    | file content x => exact absurd hresolve (h place content x)
    | _ => exact ⟨_, rfl⟩

/-- What is written leaves all names proper. -/
theorem Proper.update (hfs : fs.Proper) (path : Path) (g : Bytes → Bytes) (executable : Bool)
    (mode : Bool → Bool) : (fs.update path g executable mode).2.Proper := by
  obtain ⟨⟨e, herror⟩, -⟩ | ⟨-, hdevice⟩ | ⟨place, old, x, new, hopens, hupdate⟩ :=
    fs.update_cases path g executable mode
  · rwa [herror]
  · rwa [hdevice]
  · rw [hupdate]
    have hfile : (Node.file (g old) new).Childless := Node.childless_of_isDir_eq_false rfl
    cases hopens with
    | new hlocate => exact hfs.put_missing hlocate hfile
    | old hlocate =>
      obtain ⟨-, dir, name, es, rfl, hdir, hnode⟩ :=
        (walks_of_walk_eq (walk_of_locate hlocate)).tells.1 _ _ _ rfl
      rw [node?_append_singleton fs hdir] at hnode
      exact hfs.put hdir (fun hfree => by simp [hnode] at hfree) hfile

theorem Proper.copyFile (hfs : fs.Proper) (source target : Path) :
    (fs.copyFile source target).2.Proper := by
  rw [FileSystem.copyFile]
  split
  · exact hfs
  · next x hresolve =>
    have hempty := hfs.update target (fun _ => []) x fun _ => x
    split
    · next hupdate => rwa [hupdate] at hempty
    · next emptied hupdate =>
      rw [hupdate] at hempty
      split
      · exact hempty.update target _ false id
      · exact hempty
  · exact hfs

/-! ## What is kept -/

/-- What becomes of the files when something is copied to a path. Nothing goes away, and a file
whose content is not kept is one that the path leads to, or one that a path leads to which goes on
from it. -/
structure Spreads (target : Path) (fs fs' : FileSystem) : Prop where
  grows : Grows fs fs'
  kept : ∀ q content, fs.contentAt q = some content → fs'.contentAt q = some content ∨
    ∃ rest : List Name, (∀ name ∈ rest, Path.IsFileName name) ∧
      fs'.sink? (rest.foldl Path.join target) = some (.file q)
  proper : fs'.Proper

end FileSystem

theorem Arrival.sink?_eq_file_iff {a : Arrival} {q : Place} : a.sink? = some (.file q) ↔
    a.site = (q, .name, false) ∧ ∀ node, a.node? = some node → node.isFile = true := by
  cases a with
  | missing dir name slash => cases slash <;> simp [sink?, site, node?, Sink.ofNode?]
  | found place node last slash =>
    cases last <;> cases slash <;> cases node <;>
      simp [sink?, site, node?, Sink.ofNode?, Node.isFile]

namespace FileSystem
variable {fs fs' fs'' : FileSystem} {path source target : Path} {place dest q : Place}
  {content : Bytes}

/-- A path leads to the file that it led to. -/
theorem Grows.sink?_eq_file (h : Grows fs fs') (hsink : fs.sink? path = some (.file q))
    (hq : fs.contentAt q = some content) : fs'.sink? path = some (.file q) := by
  obtain ⟨a, hlocate, ha⟩ := sink?_eq_some_iff.1 hsink
  obtain ⟨hsite, -⟩ := Arrival.sink?_eq_file_iff.1 ha
  obtain ⟨b, hb, hsite', hnode'⟩ := h.locate hlocate
  refine sink?_eq_some_iff.2 ⟨b, hb, Arrival.sink?_eq_file_iff.2 ⟨hsite'.trans hsite, ?_⟩⟩
  intro node hnode
  obtain ⟨x, hfile⟩ := isFile_of_contentAt hq
  obtain ⟨node', hnode'', hkind⟩ := h.exists_kind hfile
  rw [hnode', hsite, hnode'', Option.some.injEq] at hnode
  rw [← hnode, ← Node.isFile_kind, hkind]
  rfl

/-- A file system grows by a file that is written. -/
theorem SameButFile.grows (h : SameButFile place fs fs')
    (hplace : fs'.contentAt place = some content) : Grows fs fs' := by
  obtain ⟨x, hfile⟩ := isFile_of_contentAt hplace
  apply h.same.grows
  rw [hfile]
  cases hold : fs.node? place with
  | none => exact .inr ⟨rfl, by simp [Node.isLink]⟩
  | some node =>
    obtain ⟨bytes, y, rfl⟩ := Node.isFile_eq_true_iff.1 (h.before node hold)
    exact .inl rfl

namespace Spreads

theorem refl (hfs : fs.Proper) (target : Path) : Spreads target fs fs :=
  ⟨.refl fs, fun _ _ hq => .inl hq, hfs⟩

theorem of_extends (h : Extends fs fs') (hfs : fs.Proper) (target : Path) :
    Spreads target fs fs' :=
  ⟨h.grows, fun q _ hq => .inl ((h.contentAt_eq q (by simp [hq])).trans hq), h.proper hfs⟩

theorem trans (h : Spreads target fs fs') (h' : Spreads target fs' fs'') :
    Spreads target fs fs'' := by
  refine ⟨h.grows.trans h'.grows, fun q content hq => ?_, h'.proper⟩
  obtain hkept | ⟨rest, hrest, hsink⟩ := h.kept q content hq
  · exact h'.kept q content hkept
  · obtain ⟨x, hfile⟩ := isFile_of_contentAt hq
    obtain ⟨node, hnode, hkind⟩ := h.grows.exists_kind hfile
    obtain ⟨bytes, y, rfl⟩ := Node.isFile_eq_true_iff.1
      (show node.isFile = true by rw [← Node.isFile_kind, hkind]; rfl)
    have hthere : fs'.contentAt q = some bytes := by rw [contentAt, hnode]; rfl
    exact .inr ⟨rest, hrest, h'.grows.sink?_eq_file hsink hthere⟩

/-- What is copied to an entry below a path is copied to the path. -/
theorem below {name : Name} (h : Spreads (Path.join target name) fs fs')
    (hname : Path.IsFileName name) : Spreads target fs fs' := by
  refine ⟨h.grows, fun q content hq => (h.kept q content hq).imp_right ?_, h.proper⟩
  rintro ⟨rest, hrest, hsink⟩
  exact ⟨name :: rest, List.forall_mem_cons.2 ⟨hname, hrest⟩, hsink⟩

end Spreads

theorem spreads_copyFile (hfs : fs.Proper) (source target : Path) :
    Spreads target fs (fs.copyFile source target).2 := by
  by_cases hfile : ∃ place content x, fs.resolve source = .ok (place, .file content x)
  · obtain ⟨place, content, x, hresolve⟩ := hfile
    have hproper := hfs.copyFile source target
    obtain ⟨⟨e, herror⟩, -⟩ | ⟨-, hdevice⟩ | ⟨dest, after, hsink, hcopy, hsame, hdest⟩ :=
      copyFile_of_file hresolve target
    · rw [herror]
      exact .refl hfs target
    · rw [hdevice]
      exact .refl hfs target
    · rw [hcopy] at hproper ⊢
      refine ⟨hsame.grows hdest, fun q bytes hq => ?_, hproper⟩
      by_cases hqd : q = dest
      · subst hqd
        exact .inr ⟨[], by simp, (hsame.sink?_eq target).trans hsink⟩
      · exact .inl ((hsame.contentAt_eq hqd).trans hq)
  · push Not at hfile
    obtain ⟨e, herror⟩ := copyFile_of_not_file hfile target
    rw [herror]
    exact .refl hfs target

theorem exists_dir_of_readDir {es : Entries} (h : fs.readDir path = .ok es) :
    ∃ place, fs.node? place = some (.dir es) := by
  rw [readDir] at h
  cases hresolve : fs.resolve path with
  | error e => simp [hresolve, bind, Except.bind] at h
  | ok found =>
    obtain ⟨place, node⟩ := found
    cases node with
    | dir entries =>
      obtain rfl : entries = es := by simpa [hresolve, bind, Except.bind] using h
      exact ⟨place, node?_of_resolve hresolve⟩
    | _ => simp [hresolve, bind, Except.bind] at h

theorem spreads_copyEntries {copyDir : FileSystem → Path → Path → Change Unit}
    (hcopy : ∀ fs source target, fs.Proper → Spreads target fs (copyDir fs source target).2)
    (source target : Path) {es : Entries} (hes : ∀ name ∈ es.map (·.1), Path.IsFileName name)
    (hfs : fs.Proper) : Spreads target fs (copyEntries copyDir source target fs es).2 := by
  induction es generalizing fs with
  | nil => exact .refl hfs target
  | cons e rest ih =>
    obtain ⟨name, node⟩ := e
    rw [List.map_cons, List.forall_mem_cons] at hes
    have hfirst : Spreads target fs ((if node.isDir then copyDir else copyFile) fs
        (Path.join source name) (Path.join target name)).2 := by
      apply Spreads.below _ hes.1
      split
      · exact hcopy fs _ _ hfs
      · exact spreads_copyFile hfs _ _
    rw [copyEntries]
    revert hfirst
    rcases (if node.isDir then copyDir else copyFile) fs (Path.join source name)
      (Path.join target name) with ⟨e | _, after⟩
    · exact id
    · exact fun hfirst => hfirst.trans (ih hes.2 hfirst.proper)

theorem spreads_copyLevels (depth : ℕ) (hfs : fs.Proper) (source target : Path) :
    Spreads target fs (copyLevels depth fs source target).2 := by
  induction depth generalizing fs source target with
  | zero => exact .refl hfs target
  | succ depth ih =>
    have hmake := Spreads.of_extends (fs.extends_makeDirAll target) hfs target
    rw [copyLevels]
    revert hmake
    rcases fs.makeDirAll target with ⟨e | ⟨⟩, made⟩
    · exact id
    · intro hmake
      dsimp only at hmake ⊢
      cases hread : made.readDir source with
      | error e => exact hmake
      | ok es =>
        obtain ⟨place, hdir⟩ := exists_dir_of_readDir hread
        exact hmake.trans (spreads_copyEntries (fun _ source target hfs => ih hfs source target)
          source target (hmake.proper.isFileName hdir) hmake.proper)

/-! ## Directories that are new -/

/-- A path that goes on from one that leads somewhere goes on from there. -/
theorem Walks.walk_of_append {links : ℕ} {here : Place} {todo rest : List Name} {slash s : Bool}
    {a b : Arrival} (h : Walks fs .follow links here todo slash a) (hrest : rest ≠ [])
    (hwalk : fs.walk .follow links here (todo ++ rest) s = .ok b) :
    ∃ links', fs.walk .follow links' a.site.1 rest s = .ok b := by
  obtain ⟨links', place, hfront, hback⟩ := (walks_of_walk_eq hwalk).exists_front rfl hrest
  obtain ⟨es, hdir⟩ := hfront
  obtain ⟨last, s', hdir⟩ := hdir slash
  rw [h.eq hdir]
  exact ⟨links', hback.walk_eq⟩

/-- A walk by names of entries that meets no link stays below where it starts. -/
theorem Walks.isPrefix_site {lastLink : LastLink} {links : ℕ} {here : Place} {todo : List Name}
    {slash : Bool} {a : Arrival} (h : Walks fs lastLink links here todo slash a)
    (hhere : place <+: here) (htodo : ∀ name ∈ todo, Path.IsEntryName name)
    (hlinks : ∀ below path, fs.node? (place ++ below) ≠ some (.link path)) :
    place <+: a.site.1 := by
  induction h with
  | stay => exact hhere
  | atDot => exact hhere
  | pastDot => exact absurd rfl (htodo _ List.mem_cons_self).1
  | atDotDot => exact absurd rfl (htodo _ List.mem_cons_self).2.1
  | pastDotDot => exact absurd rfl (htodo _ List.mem_cons_self).2.1
  | absent => exact hhere.trans (List.prefix_append _ _)
  | last => exact hhere.trans (List.prefix_append _ _)
  | down _ _ _ _ _ _ ih =>
    exact ih (hhere.trans (List.prefix_append _ _)) fun n hn => htodo n (List.mem_cons_of_mem _ hn)
  | link h _ hlookup =>
    obtain ⟨below, rfl⟩ := hhere
    rw [← node?_append_singleton fs h, List.append_assoc] at hlookup
    exact absurd hlookup (hlinks _ _)

theorem names_foldl_join {rest : List Name} (h : ∀ name ∈ rest, Path.IsSegment name)
    (path : Path) : Path.names (rest.foldl Path.join path) = Path.names path ++ rest := by
  induction rest generalizing path with
  | nil => rw [List.foldl_nil, List.append_nil]
  | cons name rest ih =>
    rw [List.forall_mem_cons] at h
    rw [List.foldl_cons, ih h.2, Path.names_join h.1, List.append_assoc, List.singleton_append]

/-- What a path leads to that goes on from one which leads to something new is new. -/
theorem Grows.node?_of_sink? (h : Grows fs fs') {a : Arrival}
    (htarget : fs'.locate .follow target = .ok a) (hnew : fs.node? a.site.1 = none)
    {rest : List Name} (hrest : ∀ name ∈ rest, Path.IsFileName name)
    (hsink : fs'.sink? (rest.foldl Path.join target) = some (.file q)) : fs.node? q = none := by
  obtain ⟨b, hb, hfile⟩ := sink?_eq_some_iff.1 hsink
  have hsite : b.site.1 = q := by rw [(Arrival.sink?_eq_file_iff.1 hfile).1]
  have hbelow (below : Place) : fs.node? (a.site.1 ++ below) = none := by
    rw [node?_append, hnew, Option.bind_none]
  suffices hprefix : a.site.1 <+: b.site.1 by
    obtain ⟨below, hq⟩ := hprefix
    rw [← hsite, ← hq, hbelow]
  by_cases hnil : rest = []
  · subst hnil
    obtain rfl : b = a := Except.ok.inj (hb.symm.trans htarget)
    exact List.prefix_rfl
  · have hwalk := walk_of_locate hb
    rw [names_foldl_join fun name hname => (hrest name hname).2] at hwalk
    obtain ⟨links, hon⟩ := (walks_of_walk_eq (walk_of_locate htarget)).walk_of_append hnil hwalk
    apply (walks_of_walk_eq hon).isPrefix_site List.prefix_rfl fun name hname =>
      (hrest name hname).1
    intro below path hlink
    have hold := h.link_eq_of hlink
    rw [hbelow] at hold
    contradiction

/-- What is copied to something new leaves the content of every file as it was. -/
theorem Spreads.contentAt_of_new (h : Spreads target fs fs') {a : Arrival}
    (htarget : fs'.locate .follow target = .ok a) (hnew : fs.node? a.site.1 = none)
    (hq : fs.contentAt q = some content) : fs'.contentAt q = some content := by
  obtain hkept | ⟨rest, hrest, hsink⟩ := h.kept q content hq
  · exact hkept
  · rw [contentAt, h.grows.node?_of_sink? htarget hnew hrest hsink] at hq
    contradiction

/-- So does what is copied to an entry that is missing from a directory. -/
theorem Spreads.contentAt_of_missing (h : Spreads target fs fs') {dir : Place} {name : Name}
    {slash : Bool} (hmissing : fs.locate .follow target = .ok (.missing dir name slash))
    (hq : fs.contentAt q = some content) : fs'.contentAt q = some content := by
  obtain ⟨b, hb, hsite, -⟩ := h.grows.locate hmissing
  apply h.contentAt_of_new hb _ hq
  rw [hsite]
  exact (node?_of_locate hmissing).symm

end FileSystem
end LineShell
