import LineShell.Proofs.Joining
import LineShell.Proofs.OnTheWay

/-!
# Two ways to one directory

A path that goes on from a directory leads where it leads from there, whichever way was taken to the
directory, as long as no limit is met: a way may be too long, or follow too many links. Both ways are
still there after the file system has grown.
-/
namespace LineShell

/-- Whether the error is due to a limit on the length of a path or of a name, or on the number of
links. -/
def IoError.isLimit : IoError → Bool
  | .os e => e == .nameTooLong || e == .linkLoop
  | _ => false

namespace FileSystem
variable {fs fs' : FileSystem} {lastLink : LastLink} {links links' : ℕ} {here place : Place}
  {front rest todo : List Name} {slash : Bool} {a : Arrival}

/-- Unless it has followed too many links, a walk ends in the same way with more links to follow. -/
theorem walk_of_le (hle : links ≤ links')
    (h : fs.walk lastLink links here todo slash ≠ .error .linkLoop) :
    fs.walk lastLink links' here todo slash = fs.walk lastLink links here todo slash := by
  induction links, here, todo, slash using walk.induct fs lastLink generalizing links' with
  | case5 links here slash node hnode rest hdir hrest ih =>
    obtain ⟨es, rfl⟩ := Node.isDir_eq_true_iff.1 (by simpa using hdir)
    rw [walk_dot hnode, if_neg hrest] at h ⊢
    rw [walk_dot hnode, if_neg hrest, ih hle h]
  | case8 links here slash node hnode rest hdir hrest hne ih =>
    obtain ⟨es, rfl⟩ := Node.isDir_eq_true_iff.1 (by simpa using hdir)
    have hne' : rest ≠ [] := mt List.isEmpty_iff.2 hrest
    rw [walk_past_dotDot hnode hne'] at h ⊢
    rw [walk_past_dotDot hnode hne', ih hle h]
  | case12 here slash node hnode name rest hdir hdot hdots hlen target hlink hfollows =>
    obtain ⟨es, rfl⟩ := Node.isDir_eq_true_iff.1 (by simpa using hdir)
    rw [Node.get?_singleton] at hlink
    exact absurd (walk_link hnode ⟨hdot, hdots, Nat.not_lt.1 hlen⟩ hlink (follows_iff.1 hfollows)) h
  | case13 here slash node hnode name rest hdir hdot hdots hlen target hlink hfollows links ih =>
    obtain ⟨es, rfl⟩ := Node.isDir_eq_true_iff.1 (by simpa using hdir)
    rw [Node.get?_singleton] at hlink
    have hname : Path.IsEntryName name := ⟨hdot, hdots, Nat.not_lt.1 hlen⟩
    obtain ⟨links', rfl⟩ := Nat.exists_eq_add_of_le' (Nat.lt_of_lt_of_le (Nat.succ_pos _) hle)
    rw [walk_link hnode hname hlink (follows_iff.1 hfollows)] at h ⊢
    rw [walk_link hnode hname hlink (follows_iff.1 hfollows)]
    exact ih (Nat.le_of_succ_le_succ hle) h
  | case14 links here slash node hnode name rest hdir hdot hdots hlen target hlink hfollows =>
    obtain ⟨es, rfl⟩ := Node.isDir_eq_true_iff.1 (by simpa using hdir)
    rw [Node.get?_singleton] at hlink
    have hname : Path.IsEntryName name := ⟨hdot, hdots, Nat.not_lt.1 hlen⟩
    have hkeep := mt follows_iff.2 hfollows
    rw [walk_link_of_not_follows hnode hname hlink hkeep,
      walk_link_of_not_follows hnode hname hlink hkeep]
  | case16 links here slash node hnode name rest hdir hdot hdots hlen child hchild hlookup hrest
      ih =>
    obtain ⟨es, rfl⟩ := Node.isDir_eq_true_iff.1 (by simpa using hdir)
    rw [Node.get?_singleton] at hlookup
    have hname : Path.IsEntryName name := ⟨hdot, hdots, Nat.not_lt.1 hlen⟩
    have hlink : child.isLink = false := Node.isLink_eq_false_iff.2 hchild
    rw [walk_child hnode hname hlookup hlink, if_neg hrest] at h ⊢
    rw [walk_child hnode hname hlookup hlink, if_neg hrest, ih hle h]
  -- what is left are walks that end at once
  | _ => rw [walk, walk] <;> simp_all

/-- A way that can be followed to its end can be followed up to its last link. -/
theorem Walks.exists_of_follow (h : Walks fs .follow links here todo slash a)
    (lastLink : LastLink) : ∃ b, Walks fs lastLink links here todo slash b := by
  induction h with
  | stay h => exact ⟨_, .stay h⟩
  | atDot h => exact ⟨_, .atDot h⟩
  | pastDot h hrest _ ih =>
    obtain ⟨b, hb⟩ := ih
    exact ⟨b, .pastDot h hrest hb⟩
  | atDotDot h hup => exact ⟨_, .atDotDot h hup⟩
  | pastDotDot h hrest _ ih =>
    obtain ⟨b, hb⟩ := ih
    exact ⟨b, .pastDotDot h hrest hb⟩
  | absent h hname hlookup => exact ⟨_, .absent h hname hlookup⟩
  | last h hname hlookup hlink =>
    exact ⟨_, .last h hname hlookup fun hl => absurd (.inr (.inl rfl)) (hlink hl)⟩
  | down h hname hlookup hlink hrest _ ih =>
    obtain ⟨b, hb⟩ := ih
    exact ⟨b, .down h hname hlookup hlink hrest hb⟩
  | @link links here name rest slash es target a h hname hlookup _ _ ih =>
    by_cases hfollows : lastLink.Follows rest slash
    · obtain ⟨b, hb⟩ := ih
      exact ⟨b, .link h hname hlookup hfollows hb⟩
    · obtain rfl : rest = [] := by
        by_contra hrest
        exact hfollows (.inl hrest)
      exact ⟨_, .last h hname hlookup fun _ => hfollows⟩

theorem exists_locate_of_follow {path : Path} (h : fs.locate .follow path = .ok a)
    (lastLink : LastLink) : ∃ b, fs.locate lastLink path = .ok b := by
  obtain ⟨b, hb⟩ := (walks_of_walk_eq (walk_of_locate h)).exists_of_follow lastLink
  exact ⟨b, locate_of_walk h hb.walk_eq⟩

/-! ## Ways to a directory -/

namespace LeadsToDir

/-- Who stays in a directory arrives there. -/
theorem place_of_dots {dots : List Name} (h : LeadsToDir fs links here dots place)
    (hdots : ∀ name ∈ dots, name = [Path.dot]) : place = here := by
  induction dots with
  | nil => exact h.place_eq_of_nil
  | cons name rest ih =>
    rw [List.forall_mem_cons] at hdots
    obtain ⟨rfl, hrest⟩ := hdots
    exact ih h.of_dot hrest

/-- Who stays in a directory has been there before. -/
theorem of_dots {dots : List Name} (h : LeadsToDir fs links here (front ++ dots) place)
    (hdots : ∀ name ∈ dots, name = [Path.dot]) : LeadsToDir fs links here front place := by
  obtain ⟨links', place', hfront, hback⟩ := h.exists_front
  obtain rfl := hback.place_of_dots hdots
  exact hfront

/-- A way is left when the file system grows. -/
theorem of_grows (h : LeadsToDir fs links here todo place) (hgrows : Grows fs fs') :
    LeadsToDir fs' links here todo place := by
  obtain ⟨es, hhere⟩ := h.exists_dir
  refine h.of_looksUp_same (hgrows.exists_dir hhere) fun q hq => ?_
  obtain ⟨node, hnode⟩ := hq.exists_node h
  exact hgrows.kind_eq hnode

end LeadsToDir

/-- No limit is met when a path is followed, whatever is done with a link in the last position. -/
def Within (fs : FileSystem) (path : Path) : Prop :=
  ∀ lastLink e, fs.locate lastLink path = .error e → e.isLimit = false

/-- Two paths lead to the same, whatever is done with a link in the last position. -/
def FollowsAlike (fs : FileSystem) (path path' : Path) : Prop :=
  ∀ lastLink, fs.locate lastLink path = fs.locate lastLink path'

/-- An absolute path leads to a directory, however long it is. -/
structure Reaches (fs : FileSystem) (base : Path) (place : Place) : Prop where
  absolute : Path.isAbsolute base = true
  noNul : 0 ∉ base
  leads : fs.LeadsToDir maxLinks [] (Path.names base) place

namespace Reaches
variable {base base' path : Path}

theorem of_grows (h : fs.Reaches base place) (hgrows : Grows fs fs') : fs'.Reaches base place :=
  ⟨h.absolute, h.noNul, h.leads.of_grows hgrows⟩

theorem mem_join_iff (h : fs.Reaches base place) (hpath : Path.isAbsolute path = false) :
    0 ∈ Path.join base path ↔ 0 ∈ path := by
  have hstem : 0 ∉ Path.stem base := by
    rw [Path.stem]
    split
    · exact fun hmem => h.noNul ((List.dropLast_subset _) hmem)
    · exact h.noNul
  have hslash : (0 : UInt8) ≠ Path.slash := by decide
  rw [Path.join_of_relative (Path.ne_nil_of_isAbsolute h.absolute) hpath]
  simp [hstem, hslash]

theorem exists_dir (h : fs.Reaches base place) : ∃ es, fs.node? place = some (.dir es) :=
  h.leads.exists_dir_place

/-- A path that goes on from a directory is followed from there. -/
theorem exists_locate_join (h : fs.Reaches base place) (hpath : Path.isAbsolute path = false)
    (hcounted : Path.counted path ≠ []) :
    ∃ links, ∀ lastLink, fs.locate lastLink (Path.join base path) =
      if 0 ∈ path then .error .nulInPath
      else if Path.maxLength < (Path.join base path).length then .error (.os .nameTooLong)
      else (fs.walk lastLink links place (Path.names path) (Path.endsInSlash path)).mapError .os := by
  have hbase := Path.ne_nil_of_isAbsolute h.absolute
  have hne : path ≠ [] := by
    rintro rfl
    exact hcounted rfl
  have hslash : Path.endsInSlash (Path.join base path) = Path.endsInSlash path := by
    rw [Path.endsInSlash_join hbase hpath, beq_false_of_ne hne, Bool.false_or]
  obtain ⟨links, hwalk⟩ := h.leads.walk_append (Path.names_ne_nil hcounted)
  refine ⟨links, fun lastLink => ?_⟩
  rw [locate, trace, Path.names_join_of_relative hpath, hslash, hwalk]
  simp only [List.contains_eq_mem, h.mem_join_iff hpath, List.isEmpty_iff,
    Path.join_ne_nil hbase hpath, if_false, decide_eq_true_eq, Bool.and_eq_true,
    Bool.not_eq_true', decide_eq_false_iff_not]
  by_cases hnul : 0 ∈ path
  · simp [hnul]
  · simp only [hnul, not_false_eq_true, true_and, if_false]
    split
    · rfl
    · cases fs.walk lastLink links place (Path.names path) (Path.endsInSlash path) <;> rfl

/-- A path leads to the same from two ways to one directory, unless a limit is met on either. -/
theorem followsAlike (h : fs.Reaches base place) (h' : fs.Reaches base' place)
    (hpath : Path.Counts path) (hwithin : fs.Within (Path.join base path))
    (hwithin' : fs.Within (Path.join base' path)) :
    fs.FollowsAlike (Path.join base path) (Path.join base' path) := by
  intro lastLink
  cases habs : Path.isAbsolute path with
  | true => rw [Path.join_of_isAbsolute habs, Path.join_of_isAbsolute habs]
  | false =>
    obtain ⟨links, hlocate⟩ := h.exists_locate_join habs (hpath habs)
    obtain ⟨links', hlocate'⟩ := h'.exists_locate_join habs (hpath habs)
    have hlimit := hwithin lastLink
    have hlimit' := hwithin' lastLink
    rw [hlocate] at hlimit ⊢
    rw [hlocate'] at hlimit' ⊢
    split_ifs at hlimit hlimit' ⊢ with hnul hlong hlong'
    · rfl
    · exact absurd (hlimit _ rfl) (by decide)
    · exact absurd (hlimit _ rfl) (by decide)
    · exact absurd (hlimit' _ rfl) (by decide)
    · -- either walk ends as one that may follow as many links as both
      have hfree (walked : Except Errno Arrival)
          (h : ∀ e, walked.mapError IoError.os = .error e → e.isLimit = false) :
          walked ≠ .error .linkLoop := by
        rintro rfl
        exact absurd (h _ rfl) (by decide)
      rw [← walk_of_le (Nat.le_max_left links links') (hfree _ hlimit),
        ← walk_of_le (Nat.le_max_right links links') (hfree _ hlimit')]

/-- The trunk of a path to a directory is another one. -/
theorem trunk (h : fs.Reaches base place) : fs.Reaches (Path.trunk base) place := by
  obtain ⟨dots, hnames, hdots⟩ := Path.names_eq_trunk h.absolute
  have hleads := h.leads
  rw [hnames] at hleads
  refine ⟨by simp [Path.isAbsolute, Path.trunk], fun hnul => ?_, hleads.of_dots hdots⟩
  -- the trunk is the parent of an entry, and so it is what that begins with
  have hrelative : Path.isAbsolute "x" = false := by decide
  have hfront : Path.front? "x" = none := by decide
  have hparent := Path.parent?_join h.absolute hrelative (by decide)
  rw [hfront, Option.elim_none] at hparent
  have hmem := (Path.isPrefix_of_parent? hparent).subset hnul
  rw [h.mem_join_iff hrelative] at hmem
  exact absurd hmem (by decide)

/-- A path to a directory leads there if it is not too long. -/
theorem isDir (h : fs.Reaches base place) (hwithin : fs.Within base) : fs.isDir base = true := by
  have hlen : base.length ≤ Path.maxLength := by
    by_contra hlong
    have htoo : fs.locate .follow base = .error (.os .nameTooLong) := by
      simp [locate, h.noNul, Nat.lt_of_not_le hlong]
    exact absurd (hwithin _ _ htoo) (by decide)
  obtain ⟨es, hwalks⟩ := h.leads
  obtain ⟨last, s, hwalks⟩ := hwalks (Path.endsInSlash base)
  exact isDir_iff.2 ⟨place, es, resolve_eq_ok_iff.2 ⟨last, s,
    locate_of_walks h.noNul (Path.ne_nil_of_isAbsolute h.absolute) hlen hwalks, fun _ => rfl⟩⟩

end Reaches

/-! ## The way that a cd takes -/

/-- Where all links are followed, none is found. -/
theorem Walks.isLink_eq_false (h : Walks fs .follow links here todo slash a)
    (hhere : ∃ es, fs.node? here = some (.dir es)) {node : Node} (ha : a.node? = some node) :
    node.isLink = false := by
  induction h with
  | stay h =>
    obtain ⟨es, hdir⟩ := hhere
    obtain rfl := Option.some.inj (ha.symm.trans (h.symm.trans hdir))
    rfl
  | atDot =>
    obtain rfl := Option.some.inj ha
    rfl
  | pastDot _ _ _ ih => exact ih hhere ha
  | atDotDot h hup =>
    obtain ⟨es, hdir⟩ := exists_dir_dropLast h
    obtain rfl := Option.some.inj (ha.symm.trans (hup.symm.trans hdir))
    rfl
  | pastDotDot h _ _ ih => exact ih (exists_dir_dropLast h) ha
  | absent => contradiction
  | last _ _ _ hlink =>
    obtain rfl := Option.some.inj ha
    by_contra hnode
    exact hlink (by simpa using hnode) (.inr (.inl rfl))
  | down _ _ _ _ hrest hnext ih => exact ih (hnext.exists_dir hrest) ha
  | link h _ _ _ _ ih => exact ih (exists_dir_base h _) ha

/-- The names of a node lead to it. -/
theorem walks_of_node? {below : Place} {node : Node} (h : fs.node? (here ++ below) = some node)
    (hlink : node.isLink = false) (hbelow : ∀ name ∈ below, Path.IsEntryName name)
    (hne : below ≠ []) :
    Walks fs lastLink links here below slash (.found (here ++ below) node .name slash) := by
  induction below generalizing here with
  | nil => contradiction
  | cons name rest ih =>
    rw [List.forall_mem_cons] at hbelow
    obtain ⟨es, hhere⟩ := exists_dir_of_below h
    by_cases hrest : rest = []
    · subst hrest
      rw [node?_append_singleton fs hhere] at h
      exact .last hhere hbelow.1 h (by simp [hlink])
    · rw [← List.singleton_append, ← List.append_assoc] at h ⊢
      obtain ⟨next, more, rfl⟩ := List.exists_cons_of_ne_nil hrest
      obtain ⟨es', hnext⟩ := exists_dir_of_below h
      rw [node?_append_singleton fs hhere] at hnext
      exact .down hhere hbelow.1 hnext rfl hrest (ih h hbelow.2 hrest)

theorem noNul_of_locate {path : Path} (h : fs.locate lastLink path = .ok a) :
    0 ∉ path := by
  rw [locate, trace] at h
  split_ifs at h with _ hnul
  simpa using hnul

/-- What a path without links is found to lead to has the place that the path tells. -/
theorem isDir_of_place {node : Node} (hnode : fs.node? place = some node)
    (hlink : node.isLink = false) (hnames : ∀ name ∈ place, Path.IsFileName name)
    (hdir : fs.isDir place.path = true) : 0 ∉ place.path ∧ node.isDir = true := by
  obtain ⟨place', es, last, s, hlocate⟩ := exists_locate_of_isDir hdir
  have hwalk := walk_of_locate hlocate
  rw [Place.names_path fun name hname => (hnames name hname).2] at hwalk
  refine ⟨noNul_of_locate hlocate, ?_⟩
  by_cases hroot : place = []
  · subst hroot
    obtain rfl := Option.some.inj hnode
    rfl
  · have hwalks : Walks fs .follow maxLinks [] place (Path.endsInSlash place.path)
        (.found place node .name (Path.endsInSlash place.path)) :=
      walks_of_node? hnode hlink (fun name hname => (hnames name hname).1) hroot
    cases hwalks.eq (walks_of_walk_eq hwalk)
    rfl

/-- The path without links that a path to a directory has leads there as well, also in any other file
system that has a directory in its place. -/
theorem reaches_of_trace {base : Path} {node : Node} {last : LastStep}
    (habs : Path.isAbsolute base = true)
    (h : fs.trace .follow base = .ok (.found place node last slash))
    (hdir : fs.isDir place.path = true) : fs.Reaches base place ∧
      ∀ fs' : FileSystem, (∃ es, fs'.node? place = some (.dir es)) →
        fs'.Reaches place.path place := by
  rw [trace] at h
  split_ifs at h with hnul hempty
  split at h
  case h_2 => contradiction
  next a hwalk =>
  cases h
  have hwalks := walks_of_walk_eq hwalk
  have hlink := hwalks.isLink_eq_false ⟨_, rfl⟩ rfl
  have hnames : ∀ name ∈ place, Path.IsFileName name :=
    hwalks.isFileName_of_mem_site (fun _ => Path.isSegment_of_mem_names) (by simp)
  obtain ⟨hnul', hdir'⟩ := isDir_of_place hwalks.node?_eq.symm hlink hnames hdir
  obtain ⟨es, rfl⟩ := Node.isDir_eq_true_iff.1 hdir'
  refine ⟨⟨habs, by simpa using hnul, .of_walks hwalks rfl⟩, fun fs' hleft => ?_⟩
  obtain ⟨es', hnode⟩ := hleft
  refine ⟨place.isAbsolute_path, hnul', ?_⟩
  rw [Place.names_path fun name hname => (hnames name hname).2]
  by_cases hroot : place = []
  · subst hroot
    exact .nil hnode
  · exact ⟨es', fun s => ⟨.name, s,
      walks_of_node? hnode rfl (fun name hname => (hnames name hname).1) hroot⟩⟩

end FileSystem
end LineShell
