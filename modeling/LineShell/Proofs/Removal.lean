import LineShell.Proofs.Emptying
import Mathlib.Data.List.Induction
import Mathlib.Data.List.Nodup

/-!
# Entries that are listed and removed

What ls lists is removed by rm or by rmdir if the path of the entry leads somewhere, and by neither
if not: both look first where the path leads, while ls does not. So a link that leads nowhere is
listed and cannot be removed. Nor can an entry whose name is no text, since it is listed by another
name. What is removed is the entry itself, a directory with all that lies below it, and never what
a link leads to.
-/
namespace LineShell

namespace Node

/-- An entry is found by its name. -/
theorem lookup_of_mem {es : Entries} {name : Name} {node : Node} (h : (es.map (·.1)).Nodup)
    (hmem : (name, node) ∈ es) : es.lookup name = some node := by
  obtain ⟨front, back, rfl⟩ := List.append_of_mem hmem
  rw [List.map_append, List.map_cons, List.nodup_middle, List.nodup_cons] at h
  rw [List.lookup_eq_some_iff]
  refine ⟨front, back, rfl, fun e he => ?_⟩
  rw [bne_iff_ne]
  intro heq
  have hfront : e.1 ∈ front.map (·.1) := List.mem_map_of_mem he
  exact h.1 (List.mem_append_left _ (heq ▸ hfront))

end Node

theorem Path.IsSegment.endsInSlash_eq_false {name : Name} (h : Path.IsSegment name) :
    Path.endsInSlash name = false := by
  rw [Path.endsInSlash, beq_eq_false_iff_ne]
  exact fun hlast => h.2 (List.mem_of_getLast? hlast)

namespace FileSystem
variable {fs fs' : FileSystem} {cwd : Path} {dir place q : Place} {name : Name} {node : Node}
  {es : Entries}

/-! ## An entry of a directory -/

theorem readDir_eq_ok_iff {path : Path} :
    fs.readDir path = .ok es ↔ ∃ place, fs.resolve path = .ok (place, .dir es) := by
  rw [readDir]
  rcases fs.resolve path with e | ⟨place, node⟩
  · simp [bind, Except.bind]
  · cases node <;> simp [bind, Except.bind]

/-- An entry that is listed when a path is: the path leads to a directory that has it. -/
structure Lists (fs : FileSystem) (cwd : Path) (dir : Place) (name : Name) (node : Node) :
    Prop where
  leads : fs.LeadsToDir maxLinks [] (Path.names cwd) dir
  noNul : 0 ∉ cwd
  ne_nil : cwd ≠ []
  there : fs.node? (dir ++ [name]) = some node
  isFileName : Path.IsFileName name

/-- The entries of a directory are what stands at their names there. -/
theorem Proper.mem_entries_iff (hfs : fs.Proper) (hdir : fs.node? dir = some (.dir es)) :
    (name, node) ∈ es ↔ fs.node? (dir ++ [name]) = some node := by
  rw [node?_append_singleton fs hdir]
  refine ⟨Node.lookup_of_mem (hfs.nodup hdir), fun hlookup => ?_⟩
  obtain ⟨front, back, rfl, -⟩ := List.lookup_eq_some_iff.1 hlookup
  simp

theorem Proper.lists (hfs : fs.Proper) (h : fs.resolve cwd = .ok (dir, .dir es))
    (hmem : (name, node) ∈ es) : fs.Lists cwd dir name node := by
  obtain ⟨last, slash, hlocate, -⟩ := resolve_eq_ok_iff.1 h
  have hdir := node?_of_resolve h
  refine ⟨.of_walks (walks_of_walk_eq (walk_of_locate hlocate)) rfl, noNul_of_locate hlocate, ?_,
    (hfs.mem_entries_iff hdir).1 hmem, hfs.isFileName hdir name (List.mem_map_of_mem hmem)⟩
  rintro rfl
  rw [locate, trace] at hlocate
  simp at hlocate

namespace Lists
variable (h : fs.Lists cwd dir name node)
include h

theorem exists_dir : ∃ es, fs.node? dir = some (.dir es) :=
  h.leads.exists_dir_place

theorem names_join : Path.names (Path.join cwd name) = Path.names cwd ++ [name] :=
  Path.names_join h.isFileName.2 cwd

theorem endsInSlash_join : Path.endsInSlash (Path.join cwd name) = false := by
  have hne : (name == []) = false := beq_false_of_ne h.isFileName.2.1
  rw [Path.endsInSlash_join h.ne_nil h.isFileName.2.isAbsolute_eq_false, hne, Bool.false_or,
    h.isFileName.2.endsInSlash_eq_false]

/-- The path of an entry is followed to the entry, unless that is a link which is to be followed. -/
theorem walk_join {lastLink : LastLink} (hkeep : node.isLink = true → lastLink ≠ .follow) :
    fs.walk lastLink maxLinks [] (Path.names (Path.join cwd name))
      (Path.endsInSlash (Path.join cwd name)) = .ok (.found (dir ++ [name]) node .name false) := by
  obtain ⟨es, hdir⟩ := h.exists_dir
  have hlookup := h.there
  rw [node?_append_singleton fs hdir] at hlookup
  obtain ⟨links, hwalk⟩ := h.leads.walk_append (List.cons_ne_nil name [])
  rw [h.names_join, h.endsInSlash_join, hwalk]
  exact Walks.walk_eq (.last hdir h.isFileName.1 hlookup fun hlink => by
    simp [LastLink.Follows, hkeep hlink])

/-- The path of an entry leads to the entry if it leads anywhere. -/
theorem locate_join {lastLink lastLink' : LastLink} {a : Arrival}
    (ha : fs.locate lastLink (Path.join cwd name) = .ok a)
    (hkeep : node.isLink = true → lastLink' ≠ .follow) :
    fs.locate lastLink' (Path.join cwd name) = .ok (.found (dir ++ [name]) node .name false) :=
  locate_of_walk ha (h.walk_join hkeep)

/-- What is no link is found by the path of its entry. -/
theorem resolve_join (hlink : node.isLink = false) {lastLink : LastLink} {a : Arrival}
    (ha : fs.locate lastLink (Path.join cwd name) = .ok a) :
    fs.resolve (Path.join cwd name) = .ok (dir ++ [name], node) :=
  resolve_eq_ok_iff.2 ⟨.name, false, h.locate_join ha (by simp [hlink]), by simp⟩

/-- Where the path of an entry leads nowhere, the entry is a link, or the path cannot be given to
the system. -/
theorem isLink_of_pathExists_eq_false (hmissing : fs.pathExists (Path.join cwd name) = false) :
    node.isLink = true ∨ 0 ∈ Path.join cwd name ∨
      Path.maxLength < (Path.join cwd name).length := by
  by_contra hnone
  simp only [not_or, Bool.not_eq_true, Nat.not_lt] at hnone
  obtain ⟨hlink, hnul, hlen⟩ := hnone
  have hne := Path.join_ne_nil h.ne_nil h.isFileName.2.isAbsolute_eq_false
  have hlocate : fs.locate .follow (Path.join cwd name) =
      .ok (.found (dir ++ [name]) node .name false) :=
    locate_of_walks hnul hne hlen (walks_of_walk_eq (h.walk_join (by simp [hlink])))
  rw [pathExists_iff.2 ⟨_, _, h.resolve_join hlink hlocate⟩] at hmissing
  contradiction

end Lists

/-- What the path of a name leads to is an entry of that name, or is found through one. -/
theorem exists_entry_of_pathExists (hleads : fs.LeadsToDir maxLinks [] (Path.names cwd) dir)
    (hname : Path.IsSegment name) (hdot : name ≠ [Path.dot]) (hdots : name ≠ [Path.dot, Path.dot])
    (hexists : fs.pathExists (Path.join cwd name) = true) :
    ∃ node, fs.node? (dir ++ [name]) = some node := by
  obtain ⟨place, found, hresolve⟩ := pathExists_iff.1 hexists
  obtain ⟨last, slash, hlocate, -⟩ := resolve_eq_ok_iff.1 hresolve
  obtain ⟨links, hwalk⟩ := hleads.walk_append (List.cons_ne_nil name [])
  have hwalks := walks_of_walk_eq ((hwalk _ _).symm.trans
    (Path.names_join hname cwd ▸ walk_of_locate hlocate))
  cases hwalks with
  | last hdir _ hlookup _ => exact ⟨_, (node?_append_singleton fs hdir name).trans hlookup⟩
  | down hdir _ hlookup _ _ _ => exact ⟨_, (node?_append_singleton fs hdir name).trans hlookup⟩
  | link hdir _ hlookup _ _ => exact ⟨_, (node?_append_singleton fs hdir name).trans hlookup⟩
  | _ => contradiction

/-! ## What is removed -/

/-- What becomes of the files when an entry is removed: nothing is left at its place or below, and
everything else looks as it did. -/
structure Removes (place : Place) (fs fs' : FileSystem) : Prop where
  gone : ∀ below, fs'.node? (place ++ below) = none
  same : ∀ q, ¬ place <+: q → (fs'.node? q).map Node.face = (fs.node? q).map Node.face

theorem Proper.removes_erase (hfs : fs.Proper) (hdir : fs.node? dir = some (.dir es))
    (name : Name) : Removes (dir ++ [name]) fs (fs.erase (dir ++ [name])) :=
  ⟨hfs.node?_erase hdir, fun _ hq => face_node?_alter (entry_ne_nil dir name) hq _⟩

/-- A directory that is emptied first is removed as well. -/
theorem Proper.removes_erase_put (hfs : fs.Proper) (hdir : fs.node? dir = some (.dir es))
    (hname : Path.IsFileName name) :
    Removes (dir ++ [name]) fs ((fs.put (dir ++ [name]) (.dir [])).erase (dir ++ [name])) := by
  have hemptied : (fs.put (dir ++ [name]) (.dir [])).Proper :=
    hfs.put hdir (fun _ => hname) Node.childless_empty
  have hsame {q : Place} (hq : ¬ dir ++ [name] <+: q) :
      ((fs.put (dir ++ [name]) (.dir [])).node? q).map Node.face = (fs.node? q).map Node.face :=
    face_node?_alter (entry_ne_nil dir name) hq _
  have habove : ¬ dir ++ [name] <+: dir := by
    intro hbelow
    have hlen := hbelow.length_le
    rw [List.length_append, List.length_singleton] at hlen
    omega
  obtain ⟨es', hdir'⟩ := exists_dir_of_face_eq (hsame habove) hdir
  have herase := hemptied.removes_erase hdir' name
  exact ⟨herase.gone, fun q hq => (herase.same q hq).trans (hsame hq)⟩

namespace Lists
variable (h : fs.Lists cwd dir name node) {a : Arrival} {lastLink : LastLink}
include h

/-- An entry that is no directory is removed as a file. -/
theorem removeFile_join (hplain : node.isDir = false)
    (ha : fs.locate lastLink (Path.join cwd name) = .ok a) :
    fs.removeFile (Path.join cwd name) = (.ok (), fs.erase (dir ++ [name])) := by
  rw [removeFile, h.locate_join ha (by simp)]
  simp [hplain]

/-- A link is removed as a directory where it leads to one. -/
theorem removeTree_join_of_link (hlink : node.isLink = true)
    (ha : fs.locate lastLink (Path.join cwd name) = .ok a) :
    fs.removeTree (Path.join cwd name) = (.ok (), fs.erase (dir ++ [name])) := by
  obtain ⟨target, rfl⟩ := Node.isLink_eq_true_iff.1 hlink
  rw [removeTree, h.locate_join ha (by simp)]

/-- A directory is emptied, and then its entry is removed, unless the way to it has been taken
away. -/
theorem removeTree_join_of_dir (hnode : node = .dir es)
    (ha : fs.locate lastLink (Path.join cwd name) = .ok a) :
    let emptied := fs.put (dir ++ [name]) (.dir [])
    fs.removeTree (Path.join cwd name) = (.ok (), emptied.erase (dir ++ [name])) ∨
      fs.removeTree (Path.join cwd name) = (.ok (), emptied) ∧
        ¬ emptied.LeadsToDir maxLinks [] (Path.names cwd) dir := by
  intro emptied
  subst hnode
  have hthere : emptied.node? (dir ++ [name]) = some (.dir []) := by
    have hnone := node?_put_empty h.there []
    rwa [List.append_nil] at hnone
  by_cases hleads : emptied.LeadsToDir maxLinks [] (Path.names cwd) dir
  · have hlists : emptied.Lists cwd dir name (.dir []) :=
      ⟨hleads, h.noNul, h.ne_nil, hthere, h.isFileName⟩
    have hkeep : emptied.locate .keep (Path.join cwd name) =
        .ok (.found (dir ++ [name]) (.dir []) .name false) :=
      locate_of_walk ha (hlists.walk_join (by simp))
    have hremoved : emptied.removeDir (Path.join cwd name) =
        (.ok (), emptied.erase (dir ++ [name])) := by
      rw [removeDir, hkeep]
    left
    rw [removeTree, h.locate_join ha (by simp)]
    dsimp only
    rw [hremoved]
  · obtain hleads' | hfails := h.leads.of_shrinks (shrinks_put_empty h.there) ⟨_, rfl⟩
    · exact absurd hleads' hleads
    · have hkeep : emptied.locate .keep (Path.join cwd name) = .error (.os .noEntry) := by
        refine locate_error_of_walk ha ?_
        rw [h.names_join]
        exact hfails _ _ _ (List.cons_ne_nil name [])
      have hlost : emptied.removeDir (Path.join cwd name) = (.error (.os .noEntry), emptied) := by
        rw [removeDir, hkeep]
      right
      rw [removeTree, h.locate_join ha (by simp)]
      dsimp only
      rw [hlost]
      exact ⟨rfl, hleads⟩

end Lists

/-- What is looked up on the way by names of entries to a directory lies on the straight way. -/
theorem LooksUp.isPrefix {links : ℕ} {here : Place} {todo : List Name}
    (hq : fs.LooksUp links here todo q) (htodo : ∀ name ∈ todo, Path.IsEntryName name)
    (hdir : fs.node? (here ++ todo) = some (.dir es)) : q <+: here ++ todo := by
  have hnext (here : Place) (name : Name) (rest : List Name) :
      here ++ name :: rest = here ++ [name] ++ rest := by simp
  induction hq with
  | @entry links here name rest _ => exact ⟨rest, (hnext here name rest).symm⟩
  | dot => exact absurd rfl (htodo _ List.mem_cons_self).1
  | dotDot => exact absurd rfl (htodo _ List.mem_cons_self).2.1
  | down _ _ _ ih =>
    rw [hnext] at hdir ⊢
    exact ih (List.forall_mem_cons.1 htodo).2 hdir
  | @link links here q name rest target _ hlink _ _ =>
    rw [hnext] at hdir
    have hfound := isDir_of_prefix hlink hdir (List.prefix_append _ _)
    simp [Node.isDir] at hfound

/-- The names on the way to what is there are names that entries can have. -/
theorem Proper.isFileName_of_mem (hfs : fs.Proper) (hplace : fs.node? place = some node) :
    ∀ name ∈ place, Path.IsFileName name := by
  induction place using List.reverseRecOn generalizing node with
  | nil => simp
  | append_singleton dir name ih =>
    obtain ⟨es, hdir⟩ := exists_dir_of_below hplace
    have hname :=
      hfs.isFileName hdir name (List.mem_map_of_mem ((hfs.mem_entries_iff hdir).2 hplace))
    rw [List.forall_mem_append, List.forall_mem_singleton]
    exact ⟨ih hdir, hname⟩

/-- Nothing on the way of a path that tells its place without links lies below an entry there. -/
theorem Proper.not_below_of_onTheWay (hfs : fs.Proper) (hdir : fs.node? dir = some (.dir es))
    (hq : fs.OnTheWay dir.path q) (name : Name) : ¬ Below (dir ++ [name]) q := by
  have hnames := hfs.isFileName_of_mem hdir
  rw [OnTheWay, Place.names_path fun n hn => (hnames n hn).2] at hq
  have habove : q <+: dir := hq.isPrefix (fun n hn => (hnames n hn).1) hdir
  rintro ⟨hbelow, -⟩
  have hlen := (hbelow.trans habove).length_le
  rw [List.length_append, List.length_singleton] at hlen
  omega

end FileSystem

namespace Builtin
open FileSystem (Lists Removes besideDanglingLink proper_besideDanglingLink resolve_fileBesideLink
  locate_danglingLink)
variable {cwd : Path} {args : List String} {fs : FileSystem} {dir : Place} {name : String}
  {node : Node} {es : Entries}

/-- What ls shows without colours are the names in the directory. -/
theorem runLs_of_readDir {palette : Palette} (hcolours : palette.enabled = false)
    (h : fs.readDir cwd = .ok es) : ∃ names, names.Perm (es.map (Utf8.lossy ·.1)) ∧
      runLs palette cwd [] fs = .ok (.text ("\n".intercalate names)) := by
  refine ⟨(shownEntries es).map (·.1), ?_, ?_⟩
  · have hshown : (es.map fun e => (Utf8.lossy e.1, e.2.isDir)).map (·.1) =
        es.map (Utf8.lossy ·.1) := by rw [List.map_map]; rfl
    rw [← hshown]
    exact (List.mergeSort_perm _ _).map _
  have hplain : (fun e : String × Bool =>
      if e.2 then palette.paint .purple e.1 else e.1) = (·.1) := by
    funext e
    rw [Palette.paint_of_not_enabled hcolours, ite_self]
  rw [runLs, placeOrHere]
  simp only [List.head?_nil, Option.map_none, Option.getD_none, h]
  rw [← hplain]

/-- An rm that fails changes nothing. -/
theorem files_runRm_of_error {e : ShellError} (h : (runRm cwd args fs).1 = .error e) :
    (runRm cwd args fs).2 = fs := by
  rw [runRm, withPath] at h ⊢
  split
  · rfl
  · next name hname =>
    rw [hname] at h
    dsimp only at h ⊢
    split_ifs at h ⊢
    · rfl
    · rfl
    · revert h
      rw [FileSystem.removeFile]
      split
      · exact fun _ => rfl
      · exact fun _ => rfl
      · split_ifs
        · exact fun _ => rfl
        · exact fun _ => rfl
        · intro h
          contradiction

/-- Nor does an rmdir that fails by a check of its own. -/
theorem files_runRmdir_of_error {e : ShellError} (h : (runRmdir cwd args fs).1 = .error e)
    (hcheck : ∀ cause, e ≠ .io cause) : (runRmdir cwd args fs).2 = fs := by
  rw [runRmdir, withPath] at h ⊢
  split
  · rfl
  · next name hname =>
    rw [hname] at h
    dsimp only at h ⊢
    split_ifs at h ⊢
    · rfl
    · revert h
      obtain ⟨cause | ⟨⟩, after⟩ := fs.removeTree (Path.resolve cwd name)
      · intro h
        cases h
        exact absurd rfl (hcheck cause)
      · intro h
        contradiction

/-- What comes of removing one entry with rm and with rmdir. -/
structure Removable (cwd : Path) (dir : Place) (name : String) (node : Node) (others : List String)
    (fs : FileSystem) : Prop where
  /-- One of the two succeeds where the path of the entry leads somewhere. -/
  succeeds_iff : ((∃ out, (runRm cwd (name :: others) fs).1 = .ok out) ∨
      ∃ out, (runRmdir cwd (name :: others) fs).1 = .ok out) ↔
    fs.pathExists (Path.resolve cwd name) = true
  /-- Where it leads nowhere the entry is a link, or the path cannot be given to the system. -/
  missing : fs.pathExists (Path.resolve cwd name) = false → node.isLink = true ∨
    0 ∈ Path.resolve cwd name ∨
    Path.maxLength < (Path.resolve cwd name).length
  rm : ∀ out, (runRm cwd (name :: others) fs).1 = .ok out →
    Removes (dir ++ [Utf8.encode name]) fs (runRm cwd (name :: others) fs).2
  /-- Nothing is known if the way to the working directory goes through what is removed. -/
  rmdir : ∀ out, (runRmdir cwd (name :: others) fs).1 = .ok out →
    (∀ q, fs.OnTheWay cwd q → ¬ FileSystem.Below (dir ++ [Utf8.encode name]) q) →
    Removes (dir ++ [Utf8.encode name]) fs (runRmdir cwd (name :: others) fs).2

/-- An rm succeeds on an entry that is found and does not lead to a directory. -/
theorem runRm_of_lists (h : fs.Lists cwd dir name node) (others : List String)
    (hexists : fs.pathExists (Path.join cwd name) = true)
    (hplain : fs.isDir (Path.join cwd name) = false) :
    runRm cwd (name :: others) fs =
      (.ok (.text ("File " ++ name ++ " removed successfully.")),
        fs.erase (dir ++ [Utf8.encode name])) := by
  obtain ⟨place, found, hresolve⟩ := FileSystem.pathExists_iff.1 hexists
  obtain ⟨last, slash, hlocate, -⟩ := FileSystem.resolve_eq_ok_iff.1 hresolve
  have hnode : node.isDir = false := by
    by_contra hdir
    obtain ⟨es, rfl⟩ := Node.isDir_eq_true_iff.1 (by simpa using hdir)
    rw [FileSystem.isDir_iff.2 ⟨_, _, h.resolve_join rfl hlocate⟩] at hplain
    contradiction
  have hremove := h.removeFile_join hnode hlocate
  rw [runRm, withPath, required]
  simp only [Path.resolve, hexists, hplain, hremove, reportChange_ok]
  rfl

/-- An rmdir succeeds on an entry that leads to a directory, and removes the entry as long as the
way to the working directory does not go through what is removed. -/
theorem runRmdir_of_lists (hfs : fs.Proper) (h : fs.Lists cwd dir name node)
    (others : List String) (hisdir : fs.isDir (Path.join cwd name) = true) :
    ∃ after, runRmdir cwd (name :: others) fs =
        (.ok (.text ("Directory " ++ name ++ " removed successfully.")), after) ∧
      ((∀ q, fs.OnTheWay cwd q → ¬ FileSystem.Below (dir ++ [Utf8.encode name]) q) →
        Removes (dir ++ [Utf8.encode name]) fs after) := by
  obtain ⟨place, entries, hresolve⟩ := FileSystem.isDir_iff.1 hisdir
  obtain ⟨last, slash, hlocate, -⟩ := FileSystem.resolve_eq_ok_iff.1 hresolve
  obtain ⟨es, hdir⟩ := h.exists_dir
  have hrun : runRmdir cwd (name :: others) fs =
      reportChange ("Directory " ++ name ++ " removed successfully.")
        (fs.removeTree (Path.join cwd name)) := by
    rw [runRmdir, withPath, required]
    simp only [Path.resolve, hisdir]
    rfl
  rw [hrun]
  cases hlink : node.isLink with
  | true =>
    have hremove := h.removeTree_join_of_link hlink hlocate
    rw [hremove, reportChange_ok]
    exact ⟨_, rfl, fun _ => hfs.removes_erase hdir name⟩
  | false =>
    have hfound := h.resolve_join hlink hlocate
    rw [hfound] at hresolve
    obtain ⟨rfl, rfl⟩ := Prod.mk.inj (Except.ok.inj hresolve)
    obtain hremove | ⟨hremove, hlost⟩ := h.removeTree_join_of_dir rfl hlocate
    · rw [hremove, reportChange_ok]
      exact ⟨_, rfl, fun _ => hfs.removes_erase_put hdir h.isFileName⟩
    · rw [hremove, reportChange_ok]
      exact ⟨_, rfl, fun hspared => absurd (h.leads.of_put_empty h.there hspared) hlost⟩

/-- An rm that succeeds has found something that is no directory. -/
theorem runRm_checks {others : List String} {out : Outcome}
    (hok : (runRm cwd (name :: others) fs).1 = .ok out) :
    fs.pathExists (Path.resolve cwd name) = true ∧ fs.isDir (Path.resolve cwd name) = false := by
  rw [runRm, withPath, required] at hok
  dsimp only at hok
  split_ifs at hok with hmissing hdir
  exact ⟨by simpa using hmissing, by simpa using hdir⟩

/-- An rmdir that succeeds has found a directory. -/
theorem runRmdir_checks {others : List String} {out : Outcome}
    (hok : (runRmdir cwd (name :: others) fs).1 = .ok out) :
    fs.isDir (Path.resolve cwd name) = true := by
  rw [runRmdir, withPath, required] at hok
  dsimp only at hok
  split_ifs at hok with hdir
  simpa using hdir

theorem removable (hfs : fs.Proper) (h : fs.Lists cwd dir name node) (others : List String) :
    Removable cwd dir name node others fs := by
  let path := Path.resolve cwd name
  have hthere (hdir : fs.isDir path = true) : fs.pathExists path = true := by
    obtain ⟨place, es, hresolve⟩ := FileSystem.isDir_iff.1 hdir
    exact FileSystem.pathExists_iff.2 ⟨place, _, hresolve⟩
  constructor
  case succeeds_iff =>
    constructor
    · rintro (⟨out, hok⟩ | ⟨out, hok⟩)
      · exact (runRm_checks hok).1
      · exact hthere (runRmdir_checks hok)
    · intro hexists
      cases hdir : fs.isDir path with
      | true =>
        obtain ⟨after, hrun, -⟩ := runRmdir_of_lists hfs h others hdir
        exact .inr ⟨_, congrArg Prod.fst hrun⟩
      | false => exact .inl ⟨_, congrArg Prod.fst (runRm_of_lists h others hexists hdir)⟩
  case missing => exact h.isLink_of_pathExists_eq_false
  case rm =>
    intro out hok
    obtain ⟨hexists, hplain⟩ := runRm_checks hok
    obtain ⟨es, hdir⟩ := h.exists_dir
    rw [runRm_of_lists h others hexists hplain]
    exact hfs.removes_erase hdir name
  case rmdir =>
    intro out hok hspared
    obtain ⟨after, hrun, hremoves⟩ := runRmdir_of_lists hfs h others (runRmdir_checks hok)
    rw [hrun]
    exact hremoves hspared

/-! ## Names that are no text -/

/-- What is shown for a name that is no text is another name, and entries can have that one. -/
theorem isSegment_lossy {bytes : Name} (hname : Path.IsSegment bytes)
    (htext : ¬ Utf8.IsText bytes) :
    Path.IsSegment (Utf8.encode (Utf8.lossy bytes)) ∧ Utf8.encode (Utf8.lossy bytes) ≠ [Path.dot] ∧
      Utf8.encode (Utf8.lossy bytes) ≠ [Path.dot, Path.dot] := by
  have hdots (text : String) (hkept : Utf8.replacement ∉ text.toList) :
      Utf8.encode (Utf8.lossy bytes) ≠ Utf8.encode text := by
    intro heq
    rw [Utf8.encode_inj] at heq
    exact htext (Utf8.isText_of_replacement_notMem (heq ▸ hkept))
  refine ⟨⟨fun hnil => ?_, fun hslash => ?_⟩, hdots "." (by decide), hdots ".." (by decide)⟩
  · exact hdots "" (by decide) hnil
  · exact hname.2 (Utf8.mem_of_mem_encode_lossy (by decide) hslash)

/-- An entry outlasts what is removed by the name that is shown for it. -/
structure Outlasts (cwd : Path) (dir : Place) (entry : Name) (node : Node) (others : List String)
    (fs : FileSystem) : Prop where
  rm : ∀ out, (runRm cwd (Utf8.lossy entry :: others) fs).1 = .ok out →
    ((runRm cwd (Utf8.lossy entry :: others) fs).2.node? (dir ++ [entry])).map Node.face =
      some node.face
  /-- Nothing is known if the way to the working directory goes through what is removed. -/
  rmdir : ∀ out, (runRmdir cwd (Utf8.lossy entry :: others) fs).1 = .ok out →
    (∀ q, fs.OnTheWay cwd q →
      ¬ FileSystem.Below (dir ++ [Utf8.encode (Utf8.lossy entry)]) q) →
    ((runRmdir cwd (Utf8.lossy entry :: others) fs).2.node? (dir ++ [entry])).map Node.face =
      some node.face

/-- What a check finds at the name that is shown has that name. -/
theorem outlasts (hfs : fs.Proper) (hresolve : fs.resolve cwd = .ok (dir, .dir es)) {entry : Name}
    (hmem : (entry, node) ∈ es) (htext : ¬ Utf8.IsText entry) (others : List String) :
    Outlasts cwd dir entry node others fs := by
  have hentry := hfs.lists hresolve hmem
  obtain ⟨hsegment, hdot, hdots⟩ := isSegment_lossy hentry.isFileName.2 htext
  have hkept {after : FileSystem}
      (hremoves : Removes (dir ++ [Utf8.encode (Utf8.lossy entry)]) fs after) :
      (after.node? (dir ++ [entry])).map Node.face = some node.face := by
    rw [hremoves.same _ fun hbegins => ?_, hentry.there, Option.map_some]
    rw [List.prefix_append_right_inj, List.cons_prefix_cons] at hbegins
    exact htext ⟨_, hbegins.1⟩
  have hremovable (hexists : fs.pathExists (Path.resolve cwd (Utf8.lossy entry)) = true) :
      ∃ node', Removable cwd dir (Utf8.lossy entry) node' others fs := by
    obtain ⟨node', hthere⟩ :=
      FileSystem.exists_entry_of_pathExists hentry.leads hsegment hdot hdots hexists
    have hdir := FileSystem.node?_of_resolve hresolve
    exact ⟨node', removable hfs (hfs.lists hresolve ((hfs.mem_entries_iff hdir).2 hthere)) others⟩
  constructor
  · intro out hok
    obtain ⟨node', hremoved⟩ := hremovable (runRm_checks hok).1
    exact hkept (hremoved.rm out hok)
  · intro out hok hspared
    obtain ⟨place, found, hfound⟩ := FileSystem.isDir_iff.1 (runRmdir_checks hok)
    obtain ⟨node', hremoved⟩ := hremovable (FileSystem.pathExists_iff.2 ⟨place, _, hfound⟩)
    exact hkept (hremoved.rmdir out hok hspared)

/-- What ls lists in a proper file system is removed by rm or by rmdir, by the name that is shown
for it, if that is its name and its path leads somewhere, and else by neither. What is removed is
the entry with all that lies below it and nothing else. A check that fails changes nothing. -/
theorem listed_entries_removed (hfs : fs.Proper) (cwd : Path) :
    (∀ (palette : Palette) (es : Entries), palette.enabled = false → fs.readDir cwd = .ok es →
      (∃ names, names.Perm (es.map (Utf8.lossy ·.1)) ∧
        runLs palette cwd [] fs = .ok (.text ("\n".intercalate names))) ∧
      ∃ dir, fs.resolve cwd = .ok (dir, .dir es) ∧
        (cwd = dir.path → ∀ q name, fs.OnTheWay cwd q → ¬ FileSystem.Below (dir ++ [name]) q) ∧
        ∀ entry node, (entry, node) ∈ es → ∀ others,
          (Utf8.IsText entry → Removable cwd dir (Utf8.lossy entry) node others fs) ∧
          (¬ Utf8.IsText entry → Outlasts cwd dir entry node others fs)) ∧
    (∀ args e, (runRm cwd args fs).1 = .error e → (runRm cwd args fs).2 = fs) ∧
    ∀ args e, (runRmdir cwd args fs).1 = .error e → (∀ cause, e ≠ .io cause) →
      (runRmdir cwd args fs).2 = fs := by
  refine ⟨fun palette es hcolours hread => ⟨runLs_of_readDir hcolours hread, ?_⟩,
    fun args e => files_runRm_of_error, fun args e => files_runRmdir_of_error⟩
  obtain ⟨dir, hresolve⟩ := FileSystem.readDir_eq_ok_iff.1 hread
  have hdir := FileSystem.node?_of_resolve hresolve
  refine ⟨dir, hresolve, ?_, fun entry node hmem others => ⟨fun htext => ?_, fun htext =>
    outlasts hfs hresolve hmem htext others⟩⟩
  · rintro rfl q name hq
    exact hfs.not_below_of_onTheWay hdir hq name
  · rw [← htext.encode_lossy] at hmem
    exact removable hfs (hfs.lists hresolve hmem) others

/-- A file is removed that lies beside a link which leads nowhere. -/
theorem listed_file_removed : besideDanglingLink.Proper ∧
    (∃ out, (runRm "/" ["a"] besideDanglingLink).1 = .ok out) ∧
    Removes ["a"] besideDanglingLink (runRm "/" ["a"] besideDanglingLink).2 := by
  refine ⟨proper_besideDanglingLink, ?_⟩
  have hread : besideDanglingLink.readDir "/" = .ok besideDanglingLink.entries :=
    FileSystem.readDir_eq_ok_iff.2 ⟨[], resolve_root _⟩
  have hpath : Path.resolve "/" "a" = "/a" := by decide
  have hexists : besideDanglingLink.pathExists "/a" = true :=
    FileSystem.pathExists_iff.2 ⟨_, _, resolve_fileBesideLink⟩
  have hfile : besideDanglingLink.isDir "/a" = false := by
    rw [FileSystem.isDir, resolve_fileBesideLink]
    rfl
  obtain ⟨-, dir, hdir, -, hentries⟩ :=
    (listed_entries_removed proper_besideDanglingLink "/").1 ⟨false⟩ _ rfl hread
  obtain rfl : ([] : Place) = dir := by
    rw [resolve_root] at hdir
    exact (Prod.mk.inj (Except.ok.inj hdir)).1
  have hremovable := (hentries "a" (.file [1] false) (by simp [besideDanglingLink]) []).1
    (Utf8.isText_encode "a")
  rw [Utf8.lossy_encode] at hremovable
  obtain ⟨out, hok⟩ | ⟨out, hok⟩ := hremovable.succeeds_iff.2 (hpath ▸ hexists)
  · exact ⟨⟨out, hok⟩, hremovable.rm out hok⟩
  · simp [runRmdir, withPath, required, hpath, hfile] at hok

/-- A link that leads nowhere is listed, and removed neither by rm nor by rmdir. -/
theorem dangling_link_not_removed :
    (∃ names, "l" ∈ names ∧
      runLs ⟨false⟩ "/" [] besideDanglingLink = .ok (.text ("\n".intercalate names))) ∧
    runRm "/" ["l"] besideDanglingLink = (.error (.pathNotFound "File" "l"), besideDanglingLink) ∧
    runRmdir "/" ["l"] besideDanglingLink =
      (.error (.pathNotFound "Directory" "l"), besideDanglingLink) := by
  have hpath : Path.resolve "/" "l" = "/l" := by decide
  have hread : besideDanglingLink.readDir "/" = .ok besideDanglingLink.entries :=
    FileSystem.readDir_eq_ok_iff.2 ⟨[], resolve_root _⟩
  have hresolve := FileSystem.resolve_of_missing locate_danglingLink.2
  have hmissing : besideDanglingLink.pathExists "/l" = false :=
    FileSystem.pathExists_of_resolve_error hresolve
  have hdir : besideDanglingLink.isDir "/l" = false :=
    FileSystem.isDir_of_resolve_error hresolve
  refine ⟨?_, ?_, ?_⟩
  · obtain ⟨names, hnames, hls⟩ :=
      runLs_of_readDir (rfl : Palette.enabled ⟨false⟩ = false) hread
    exact ⟨names, hnames.symm.subset (by simp [besideDanglingLink]), hls⟩
  · simp [runRm, withPath, required, hpath, hmissing]
  · simp [runRmdir, withPath, required, hpath, hdir]

end Builtin
end LineShell
