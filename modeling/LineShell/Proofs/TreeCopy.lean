import LineShell.Proofs.MissingDirs
import LineShell.Proofs.Removal

/-!
# Directories that are copied

A directory below which there are only directories and files is copied to where nothing is. The
copy goes level by level: the directory is made, the entries of the other one are read, and each of
them is copied in turn. What one entry adds lies below its own name, so the entries do not get in
the way of each other, and nothing that is read changes as long as neither place lies below the
other. Every level makes the paths longer, so that the system takes none of them any more before the
levels run out.
-/
namespace LineShell

namespace Path

/-- An entry makes the path longer. -/
theorem length_lt_length_join {name : Name} (hname : IsSegment name) (base : Path) :
    base.length < (join base name).length := by
  have hpos : 0 < name.length := List.length_pos_iff.2 hname.1
  rw [join, hname.isAbsolute_eq_false, if_neg Bool.false_ne_true]
  split
  · next hnil =>
    rw [List.getLast?_eq_none_iff.1 hnil]
    exact hpos
  · rw [List.length_append]
    omega
  · rw [List.length_append, List.length_cons]
    omega

theorem length_le_length_foldl_join {below : List Name} (hbelow : ∀ name ∈ below, IsSegment name)
    (base : Path) : below.length ≤ (below.foldl join base).length := by
  have hmore : base.length + below.length ≤ (below.foldl join base).length := by
    induction below generalizing base with
    | nil => simp
    | cons name rest ih =>
      rw [List.forall_mem_cons] at hbelow
      have hfirst := length_lt_length_join hbelow.1 base
      have hrest := ih hbelow.2 (join base name)
      rw [List.length_cons, List.foldl_cons]
      omega
  omega

theorem endsInSlash_join_of_isSegment {name : Name} (hname : IsSegment name) (base : Path) :
    endsInSlash (join base name) = false := by
  have hrelative := hname.isAbsolute_eq_false
  by_cases hbase : base = []
  · rw [hbase, join_nil_left hrelative, hname.endsInSlash_eq_false]
  · rw [endsInSlash_join hbase hrelative, beq_false_of_ne hname.1, Bool.false_or,
      hname.endsInSlash_eq_false]

end Path

theorem Node.face_eq_file {node : Node} {content : Bytes} {x : Bool}
    (h : node.face = .file content x) : node = .file content x := by
  cases node <;> simp_all [face]

theorem Node.isDir_face (node : Node) : node.face.isDir = node.isDir := by
  cases node <;> rfl

theorem Node.isFile_face (node : Node) : node.face.isFile = node.isFile := by
  cases node <;> rfl

namespace FileSystem
variable {fs fs' fs'' made : FileSystem} {source target path : Path} {S T dir place q : Place}
  {name : Name} {node : Node} {es : Entries} {front : List Name} {content : Bytes} {x : Bool}
  {depth : ℕ}

/-! ## One file -/

/-- A path whose last name is that of an entry leads to the entry. -/
theorem LeadsToDir.resolve_entry (hfront : LeadsToDir fs maxLinks [] front dir)
    (hnames : Path.names path = front ++ [name]) (hname : Path.IsEntryName name)
    (hnode : fs.node? (dir ++ [name]) = some node) (hlink : node.isLink = false)
    (hslash : Path.endsInSlash path = false) (hfits : Path.Fits path) :
    fs.resolve path = .ok (dir ++ [name], node) := by
  obtain ⟨es, hdir⟩ := hfront.exists_dir_place
  obtain ⟨links, hlocate⟩ := hfront.exists_locate hnames (List.cons_ne_nil name []) hfits
  rw [node?_append_singleton fs hdir] at hnode
  refine resolve_eq_ok_iff.2 ⟨.name, false, ?_, by simp⟩
  rw [hlocate, walk_child hdir hname hnode hlink, hslash]
  rfl

/-- A file that is copied to where an entry is missing is added there. -/
theorem exists_copyFile_of_missing (hsource : fs.resolve source = .ok (place, .file content x))
    (htarget : fs.locate .follow target = .ok (.missing dir name false)) :
    ∃ after, fs.copyFile source target = (.ok (), after) ∧
      Adds (dir ++ [name]) (.file content x) fs after := by
  have hfile (bytes : Bytes) : (Node.file bytes x).Childless := Node.childless_of_isDir_eq_false rfl
  obtain ⟨es, hdir⟩ := exists_dir_of_missing htarget
  have hadds := adds_put htarget (hfile [])
  have hnew : fs.node? (dir ++ [name]) = none := hadds.absent
  let emptied := fs.put (dir ++ [name]) (.file [] x)
  -- the file that is copied is another one, and so it is still there
  have hleft : emptied.node? place = some (.file content x) := by
    have hnode := node?_of_resolve hsource
    have hne : place ≠ dir ++ [name] := by
      rintro rfl
      rw [hnode] at hnew
      contradiction
    have hface := hadds.same place hne
    rw [hnode, Option.map_some, Option.map_eq_some_iff] at hface
    obtain ⟨node, hthere, hsame⟩ := hface
    rw [hthere, Node.face_eq_file hsame]
  have hlocate : emptied.locate .follow target =
      .ok (.found (dir ++ [name]) (.file [] x) .name false) := by
    obtain ⟨b, hb, hsite, hthere⟩ := (hadds.grows rfl).locate htarget
    rw [hb, Arrival.eq_found hsite (hthere.trans hadds.present)]
  obtain ⟨es', hdir'⟩ := (hadds.grows rfl).exists_dir hdir
  have hold (old : Node) (hthere : emptied.node? (dir ++ [name]) = some old) : old.Childless := by
    rw [hadds.present, Option.some.injEq] at hthere
    exact hthere ▸ hfile []
  refine ⟨emptied.put (dir ++ [name]) (.file content x), ?_, hnew,
    node?_put_self hdir' name _, fun q hq => ?_⟩
  · have hopen : fs.update target (fun _ => []) x (fun _ => x) = (.ok (), emptied) := by
      rw [update, htarget]
      rfl
    rw [copyFile, hsource]
    simp only [hopen, hleft]
    rw [update, hlocate]
    rfl
  · rw [sameBut_put hdir' (hfile content) hold q hq]
    exact hadds.same q hq

/-! ## What is copied -/

/-- What becomes of the files when all that stands at one place and below is copied to another. -/
structure Mirrors (S T : Place) (fs fs' : FileSystem) : Prop where
  copied : ∀ below, fs'.faceAt (T ++ below) = fs.faceAt (S ++ below)
  same : ∀ q, ¬ T <+: q → fs'.faceAt q = fs.faceAt q

/-- What has nothing below it is copied by adding it. -/
theorem Adds.mirrors (h : Adds T node fs fs') (hnode : fs.node? S = some node)
    (hchildless : node.Childless) : Mirrors S T fs fs' := by
  constructor
  case copied =>
    rintro (_ | ⟨name, rest⟩)
    · rw [List.append_nil, List.append_nil, h.faceAt_self, faceAt, hnode]
      rfl
    · rw [faceAt, faceAt, node?_append, node?_append, h.present, hnode, Option.bind_some,
        hchildless]
  case same =>
    intro q hq
    apply h.faceAt_eq
    rintro rfl
    exact hq List.prefix_rfl

/-- Neither of two places lies at the other one or below. -/
def Apart (S T : Place) : Prop :=
  ¬ S <+: T ∧ ¬ T <+: S

theorem Apart.append (h : Apart S T) (x y : Place) : Apart (S ++ x) (T ++ y) := by
  constructor
  · intro hbegins
    have hS : S <+: T ++ y := (List.prefix_append S x).trans hbegins
    exact (List.prefix_or_prefix_of_prefix hS (List.prefix_append T y)).elim h.1 h.2
  · intro hbegins
    have hT : T <+: S ++ x := (List.prefix_append T y).trans hbegins
    exact (List.prefix_or_prefix_of_prefix hT (List.prefix_append S x)).elim h.2 h.1

theorem Apart.not_isPrefix_append (h : Apart S T) (below : Place) : ¬ T <+: S ++ below := by
  have happend := (h.append below []).2
  rwa [List.append_nil] at happend

theorem exists_node_of_faceAt (h : fs'.faceAt q = fs.faceAt q) (hnode : fs'.node? q = some node) :
    ∃ old, fs.node? q = some old ∧ old.face = node.face := by
  rw [faceAt, hnode, Option.map_some] at h
  exact Option.map_eq_some_iff.1 h.symm

/-- There are only directories and files at a place and below. -/
def PlainBelow (fs : FileSystem) (S : Place) : Prop :=
  ∀ below node, fs.node? (S ++ below) = some node → node.isDir = true ∨ node.isFile = true

/-- What stands at a place and below it has, put behind a path, a path that the system takes. -/
def FitBelow (fs : FileSystem) (S : Place) (path : Path) : Prop :=
  ∀ below node, fs.node? (S ++ below) = some node → Path.Fits (below.foldl Path.join path)

theorem PlainBelow.of_same (h : fs.PlainBelow S)
    (hsame : ∀ below, fs'.faceAt (S ++ below) = fs.faceAt (S ++ below)) : fs'.PlainBelow S := by
  intro below node hnode
  obtain ⟨old, hold, hface⟩ := exists_node_of_faceAt (hsame below) hnode
  have hplain := h below old hold
  rwa [← Node.isDir_face, ← Node.isFile_face, hface, Node.isDir_face, Node.isFile_face] at hplain

theorem FitBelow.of_same (h : fs.FitBelow S path)
    (hsame : ∀ below, fs'.faceAt (S ++ below) = fs.faceAt (S ++ below)) :
    fs'.FitBelow S path := by
  intro below node hnode
  obtain ⟨old, hold, -⟩ := exists_node_of_faceAt (hsame below) hnode
  exact h below old hold

theorem PlainBelow.child (h : fs.PlainBelow S) (name : Name) : fs.PlainBelow (S ++ [name]) := by
  intro below node hnode
  rw [List.append_assoc] at hnode
  exact h _ node hnode

theorem FitBelow.child (h : fs.FitBelow S path) (name : Name) :
    fs.FitBelow (S ++ [name]) (Path.join path name) := by
  intro below node hnode
  rw [List.append_assoc] at hnode
  exact h (name :: below) node hnode

/-- A directory of not too many levels, below which there are only directories and files, can be
copied into another one: all paths that this takes are short enough. -/
structure CanCopy (fs : FileSystem) (source target : Path) (S T : Place) (depth : ℕ) : Prop where
  proper : fs.Proper
  leadsFrom : LeadsToDir fs maxLinks [] (Path.names source) S
  leadsTo : LeadsToDir fs maxLinks [] (Path.names target) T
  apart : Apart S T
  levels : ∀ below node, fs.node? (S ++ below) = some node → below.length < depth
  plain : fs.PlainBelow S
  fitsFrom : fs.FitBelow S source
  fitsTo : fs.FitBelow S target

namespace CanCopy

/-- What can be copied can still be copied when something has been added elsewhere. -/
theorem of_grows (h : fs.CanCopy source target S T depth) (hproper : fs'.Proper)
    (hgrows : Grows fs fs') (hsame : ∀ below, fs'.faceAt (S ++ below) = fs.faceAt (S ++ below)) :
    fs'.CanCopy source target S T depth := by
  refine ⟨hproper, h.leadsFrom.of_grows hgrows, h.leadsTo.of_grows hgrows, h.apart, ?_,
    h.plain.of_same hsame, h.fitsFrom.of_same hsame, h.fitsTo.of_same hsame⟩
  intro below node hnode
  obtain ⟨old, hold, -⟩ := exists_node_of_faceAt (hsame below) hnode
  exact h.levels below old hold

theorem isFileName (h : fs.CanCopy source target S T depth)
    (hnode : fs.node? (S ++ [name]) = some node) : Path.IsFileName name :=
  h.proper.isFileName_of_mem hnode name (by simp)

/-- A directory in the one that is copied can be copied to its name in the other one. -/
theorem child (h : fs.CanCopy source target S T (depth + 1)) {es' : Entries}
    (hS : fs.node? (S ++ [name]) = some (.dir es))
    (hT : fs.node? (T ++ [name]) = some (.dir es')) :
    fs.CanCopy (Path.join source name) (Path.join target name) (S ++ [name]) (T ++ [name])
      depth := by
  have hname := h.isFileName hS
  refine ⟨h.proper, ?_, ?_, h.apart.append [name] [name], ?_, h.plain.child name,
    h.fitsFrom.child name, h.fitsTo.child name⟩
  · rw [Path.names_join hname.2]
    exact h.leadsFrom.append fun _ => .down hname.1 (.nil hS)
  · rw [Path.names_join hname.2]
    exact h.leadsTo.append fun _ => .down hname.1 (.nil hT)
  · intro below node hnode
    rw [List.append_assoc] at hnode
    have hlength : (name :: below).length < depth + 1 := h.levels _ node hnode
    rw [List.length_cons] at hlength
    omega

/-! ## One entry -/

theorem exists_copyFile (h : fs.CanCopy source target S T depth)
    (hnode : fs.node? (S ++ [name]) = some (.file content x))
    (hfree : fs.node? (T ++ [name]) = none) :
    ∃ after, fs.copyFile (Path.join source name) (Path.join target name) = (.ok (), after) ∧
      Mirrors (S ++ [name]) (T ++ [name]) fs after := by
  have hname := h.isFileName hnode
  have hslash (base : Path) : Path.endsInSlash (Path.join base name) = false :=
    Path.endsInSlash_join_of_isSegment hname.2 base
  have hresolve := h.leadsFrom.resolve_entry (Path.names_join hname.2 source) hname.1 hnode rfl
    (hslash source) (h.fitsFrom [name] _ hnode)
  have hmissing := h.leadsTo.locate_of_free (Path.names_join hname.2 target) hname.1 hfree
    (h.fitsTo [name] _ hnode) .follow
  rw [hslash] at hmissing
  obtain ⟨after, hcopy, hadds⟩ := exists_copyFile_of_missing hresolve hmissing
  exact ⟨after, hcopy, hadds.mirrors hnode (Node.childless_of_isDir_eq_false rfl)⟩

end CanCopy

/-- Directories of so many levels are copied into those that have just been made for them. -/
def CopiesLevels (depth : ℕ) : Prop :=
  ∀ ⦃fs made : FileSystem⦄ ⦃source target : Path⦄ ⦃S T : Place⦄,
    fs.makeDirAll target = (.ok (), made) → made.CanCopy source target S T depth →
    made.node? T = some (.dir []) →
    ∃ after, copyLevels depth fs source target = (.ok (), after) ∧ Mirrors S T made after

/-- What has been made for a copy is copied into. -/
theorem Mirrors.of_adds (h : Mirrors S T made fs') (hadds : Adds T (.dir []) fs made)
    (happart : Apart S T) : Mirrors S T fs fs' := by
  constructor
  case copied =>
    intro below
    rw [h.copied, hadds.faceAt_eq]
    intro heq
    exact happart.not_isPrefix_append below (heq ▸ List.prefix_rfl)
  case same =>
    intro q hq
    rw [h.same q hq, hadds.faceAt_eq]
    rintro rfl
    exact hq List.prefix_rfl

theorem CanCopy.exists_copyLevels (h : fs.CanCopy source target S T (depth + 1))
    (hlevels : CopiesLevels depth) (hnode : fs.node? (S ++ [name]) = some (.dir es))
    (hfree : fs.node? (T ++ [name]) = none) :
    ∃ after, copyLevels depth fs (Path.join source name) (Path.join target name) =
      (.ok (), after) ∧ Mirrors (S ++ [name]) (T ++ [name]) fs after := by
  have hname := h.isFileName hnode
  have happart := h.apart.append [name] [name]
  obtain ⟨hmake, hadds⟩ := makeDirAll_of_free h.leadsTo (Path.names_join hname.2 target) hname.1
    hfree (h.fitsTo [name] _ hnode)
  have hextends := fs.extends_makeDirAll (Path.join target name)
  rw [hmake] at hextends
  have hsame (below : Place) : (fs.put (T ++ [name]) (.dir [])).faceAt (S ++ below) =
      fs.faceAt (S ++ below) := by
    apply hadds.faceAt_eq
    intro heq
    exact h.apart.not_isPrefix_append below (heq ▸ List.prefix_append T [name])
  have hmade := h.of_grows (hextends.proper h.proper) hextends.grows hsame
  obtain ⟨es', hthere⟩ := hextends.grows.exists_dir hnode
  obtain ⟨after, hcopy, hmirrors⟩ := hlevels hmake (hmade.child hthere hadds.present) hadds.present
  exact ⟨after, hcopy, hmirrors.of_adds hadds happart⟩

/-- An entry is copied to its name in the other directory, as a directory or as a file. -/
theorem CanCopy.exists_copyEntry (h : fs.CanCopy source target S T (depth + 1))
    (hlevels : CopiesLevels depth) (hface : fs.faceAt (S ++ [name]) = some node.face)
    (hfree : fs.node? (T ++ [name]) = none) :
    ∃ after, (if node.isDir then copyLevels depth else copyFile) fs (Path.join source name)
        (Path.join target name) = (.ok (), after) ∧
      Mirrors (S ++ [name]) (T ++ [name]) fs after ∧ Grows fs after ∧ after.Proper := by
  obtain ⟨old, hold, hsame⟩ := Option.map_eq_some_iff.1 hface
  have hdir : old.isDir = node.isDir := by
    rw [← Node.isDir_face, hsame, Node.isDir_face]
  by_cases hnode : node.isDir = true
  · rw [hnode] at hdir
    obtain ⟨es, rfl⟩ := Node.isDir_eq_true_iff.1 hdir
    obtain ⟨after, hcopy, hmirrors⟩ := h.exists_copyLevels hlevels hold hfree
    have hspreads := spreads_copyLevels depth h.proper (Path.join source name)
      (Path.join target name)
    rw [hcopy] at hspreads
    rw [if_pos hnode]
    exact ⟨after, hcopy, hmirrors, hspreads.grows, hspreads.proper⟩
  · have hfile : old.isFile = true := by
      obtain hd | hf := h.plain [name] old hold
      · exact absurd (hdir ▸ hd) hnode
      · exact hf
    obtain ⟨content, x, rfl⟩ := Node.isFile_eq_true_iff.1 hfile
    obtain ⟨after, hcopy, hmirrors⟩ := h.exists_copyFile hold hfree
    have hspreads := spreads_copyFile h.proper (Path.join source name) (Path.join target name)
    rw [hcopy] at hspreads
    rw [if_neg hnode]
    exact ⟨after, hcopy, hmirrors, hspreads.grows, hspreads.proper⟩

/-! ## All entries -/

theorem not_isPrefix_entry {name' : Name} (hne : name' ≠ name) (T below : Place) :
    ¬ T ++ [name'] <+: T ++ name :: below := by
  rw [List.prefix_append_right_inj, List.cons_prefix_cons]
  exact fun hbegins => hne hbegins.1

/-- The entries of a directory are copied one after the other. What has their names in the other
directory is copied from the first one, and nothing else changes. -/
theorem CanCopy.exists_copyEntries (h : fs.CanCopy source target S T (depth + 1))
    (hlevels : CopiesLevels depth) (hnodup : (es.map (·.1)).Nodup)
    (hthere : ∀ e ∈ es, fs.faceAt (S ++ [e.1]) = some e.2.face)
    (hfree : ∀ e ∈ es, fs.node? (T ++ [e.1]) = none) :
    ∃ after, copyEntries (copyLevels depth) source target fs es = (.ok (), after) ∧
      (∀ e ∈ es, ∀ below, after.faceAt (T ++ e.1 :: below) = fs.faceAt (S ++ e.1 :: below)) ∧
      ∀ q, (∀ e ∈ es, ¬ T ++ [e.1] <+: q) → after.faceAt q = fs.faceAt q := by
  induction es generalizing fs with
  | nil => exact ⟨fs, rfl, by simp, fun _ _ => rfl⟩
  | cons e rest ih =>
    obtain ⟨name, node⟩ := e
    rw [List.map_cons, List.nodup_cons] at hnodup
    rw [List.forall_mem_cons] at hthere hfree
    have hne (e : Name × Node) (he : e ∈ rest) : e.1 ≠ name := by
      intro heq
      apply hnodup.1
      rw [← heq]
      exact List.mem_map.2 ⟨e, he, rfl⟩
    obtain ⟨mid, hcopy, hmirrors, hgrows, hproper⟩ := h.exists_copyEntry hlevels hthere.1 hfree.1
    -- nothing that is still to be copied, or to be made, has changed
    have hsource (below : Place) : mid.faceAt (S ++ below) = fs.faceAt (S ++ below) := by
      apply hmirrors.same
      intro hbegins
      exact h.apart.not_isPrefix_append below ((List.prefix_append T [name]).trans hbegins)
    have hothers (e : Name × Node) (he : e ∈ rest) : mid.node? (T ++ [e.1]) = none := by
      rw [← faceAt_eq_none_iff, hmirrors.same _ (not_isPrefix_entry (hne e he).symm T []),
        faceAt_eq_none_iff]
      exact hfree.2 e he
    have hleft (e : Name × Node) (he : e ∈ rest) : mid.faceAt (S ++ [e.1]) = some e.2.face := by
      rw [hsource]
      exact hthere.2 e he
    obtain ⟨after, hrest, hcopied, hsame⟩ :=
      ih (h.of_grows hproper hgrows hsource) hnodup.2 hleft hothers
    refine ⟨after, ?_, ?_, fun q hq => ?_⟩
    · rw [copyEntries]
      simp only [hcopy]
      exact hrest
    · rw [List.forall_mem_cons]
      constructor
      · intro below
        rw [hsame _ fun e he => not_isPrefix_entry (hne e he) T below]
        have hfirst := hmirrors.copied below
        rwa [List.append_assoc, List.append_assoc] at hfirst
      · intro e he below
        rw [hcopied e he below, hsource]
    · rw [List.forall_mem_cons] at hq
      rw [hsame q hq.2, hmirrors.same q hq.1]

theorem faceAt_below_of_none (h : fs.node? (dir ++ [name]) = none) (below : Place) :
    fs.faceAt (dir ++ name :: below) = none := by
  have hbelow : dir ++ name :: below = dir ++ [name] ++ below := by simp
  rw [faceAt_eq_none_iff, hbelow, node?_append, h, Option.bind_none]

/-- The directory that is to be copied can be read. -/
theorem CanCopy.exists_readDir (h : fs.CanCopy source target S T depth) :
    ∃ es, fs.node? S = some (.dir es) ∧ fs.readDir source = .ok es := by
  obtain ⟨es, hdir⟩ := h.leadsFrom.exists_dir_place
  -- only the root has no names, and everything is below the root
  have hne : source ≠ [] := by
    rintro rfl
    obtain rfl := LeadsToDir.place_eq_of_nil h.leadsFrom
    exact h.apart.1 T.nil_prefix
  have hfits := h.fitsFrom [] (.dir es) (by rwa [List.append_nil])
  obtain ⟨es', hresolve⟩ := h.leadsFrom.resolve hne hfits
  obtain rfl : es' = es := by
    have hthere := node?_of_resolve hresolve
    rw [hdir, Option.some.injEq, Node.dir.injEq] at hthere
    exact hthere.symm
  exact ⟨es', hdir, readDir_eq_ok_iff.2 ⟨S, hresolve⟩⟩

/-- Directories of any number of levels are copied. -/
theorem copiesLevels (depth : ℕ) : CopiesLevels depth := by
  induction depth with
  | zero =>
    intro fs made source target S T hmade h hempty
    obtain ⟨es, hdir⟩ := h.leadsFrom.exists_dir_place
    have hlevel := h.levels [] (.dir es) (by rwa [List.append_nil])
    rw [List.length_nil] at hlevel
    omega
  | succ depth ih =>
    intro fs made source target S T hmade h hempty
    obtain ⟨es, hdir, hread⟩ := h.exists_readDir
    have hthere (e : Name × Node) (he : e ∈ es) : made.node? (S ++ [e.1]) = some e.2 :=
      (h.proper.mem_entries_iff hdir).1 he
    have hfree (name : Name) : made.node? (T ++ [name]) = none := by
      rw [node?_append_singleton made hempty, List.lookup_nil]
    obtain ⟨after, hcopy, hcopied, hsame⟩ := h.exists_copyEntries ih (h.proper.nodup hdir)
      (fun e he => by rw [faceAt, hthere e he, Option.map_some]) fun e _ => hfree e.1
    refine ⟨after, ?_, ?_, fun q hq => ?_⟩
    · rw [copyLevels, hmade]
      simp only [hread]
      exact hcopy
    · rintro (_ | ⟨name, below⟩)
      · have hself (e : Name × Node) (_ : e ∈ es) : ¬ T ++ [e.1] <+: T ++ [] := by
          rw [List.prefix_append_right_inj, List.prefix_nil]
          exact List.cons_ne_nil e.1 []
        rw [hsame _ hself, List.append_nil, List.append_nil, faceAt_eq_dir_iff.2 ⟨_, hempty⟩,
          faceAt_eq_dir_iff.2 ⟨_, hdir⟩]
      · by_cases hname : ∃ e ∈ es, e.1 = name
        · obtain ⟨e, he, rfl⟩ := hname
          exact hcopied e he below
        · -- neither directory has an entry of this name
          push Not at hname
          have hnone : made.node? (S ++ [name]) = none := by
            rw [node?_append_singleton made hdir, List.lookup_eq_none_iff]
            intro e he
            rw [bne_iff_ne]
            exact (hname e he).symm
          rw [hsame _ fun e he => not_isPrefix_entry (hname e he) T below,
            faceAt_below_of_none (hfree name), faceAt_below_of_none hnone]
    · apply hsame
      intro e _ hbegins
      exact hq ((List.prefix_append T [e.1]).trans hbegins)

/-! ## How many levels there are -/

/-- The entries of a directory are copied alike if the directories among them are. -/
theorem copyEntries_congr {copyDir copyDir' : FileSystem → Path → Path → Change Unit}
    (hcopy : ∀ fs source, fs.Proper → ∀ name ∈ es.map (·.1),
      copyDir' fs source (Path.join target name) = copyDir fs source (Path.join target name))
    (hspreads : ∀ fs source target, fs.Proper → Spreads target fs (copyDir fs source target).2)
    (hfs : fs.Proper) (source : Path) :
    copyEntries copyDir' source target fs es = copyEntries copyDir source target fs es := by
  induction es generalizing fs with
  | nil => rfl
  | cons e rest ih =>
    obtain ⟨name, node⟩ := e
    simp only [List.map_cons, List.forall_mem_cons] at hcopy
    have hfirst : (if node.isDir then copyDir' else copyFile) fs (Path.join source name)
        (Path.join target name) = (if node.isDir then copyDir else copyFile) fs
          (Path.join source name) (Path.join target name) := by
      split
      · exact (hcopy fs _ hfs).1
      · rfl
    have hproper : ((if node.isDir then copyDir else copyFile) fs (Path.join source name)
        (Path.join target name)).2.Proper := by
      split
      · exact (hspreads fs _ _ hfs).proper
      · exact (spreads_copyFile hfs _ _).proper
    rw [copyEntries, copyEntries, hfirst]
    revert hproper
    rcases (if node.isDir then copyDir else copyFile) fs (Path.join source name)
      (Path.join target name) with ⟨e | ⟨⟩, after⟩
    · exact fun _ => rfl
    · exact fun hproper => ih (fun fs source hfs => (hcopy fs source hfs).2) hproper

/-- More levels make no difference where the path has no room for as many. -/
theorem copyLevels_succ (hfs : fs.Proper) (habs : Path.isAbsolute target = true)
    (hroom : Path.maxLength < depth + target.length) (source : Path) :
    copyLevels (depth + 2) fs source target = copyLevels (depth + 1) fs source target := by
  induction depth generalizing fs source target with
  | zero =>
    have hfits : ¬ Path.Fits target := fun hfits => by
      have hshort := hfits.2
      omega
    simp only [copyLevels, makeDirAll_of_not_fits habs hfits]
  | succ depth ih =>
    have hmade := (fs.extends_makeDirAll target).proper hfs
    rw [copyLevels, copyLevels]
    revert hmade
    rcases fs.makeDirAll target with ⟨e | ⟨⟩, made⟩
    · exact fun _ => rfl
    · intro hmade
      dsimp only
      cases hread : made.readDir source with
      | error e => rfl
      | ok es =>
        obtain ⟨place, hdir⟩ := exists_dir_of_readDir hread
        refine copyEntries_congr (fun fs source hfs name hname => ?_)
          (fun fs source target hfs => spreads_copyLevels (depth + 1) hfs source target) hmade
          source
        have hsegment := (hmade.isFileName hdir name hname).2
        have hlonger := Path.length_lt_length_join hsegment target
        have hroom' : Path.maxLength < depth + (Path.join target name).length := by omega
        exact ih hfs (Path.isAbsolute_join habs name) hroom' source

/-- As many levels are copied as there are: any number of them that no path has room for gives the
same. -/
theorem copyLevels_eq_copyTree (hfs : fs.Proper) (habs : Path.isAbsolute target = true)
    (hdepth : Path.maxLength < depth) (source : Path) :
    copyLevels depth fs source target = fs.copyTree source target := by
  induction depth, hdepth using Nat.le_induction with
  | base => rfl
  | succ depth hmore ih =>
    obtain ⟨levels, rfl⟩ := Nat.exists_eq_add_one_of_ne_zero (Nat.ne_zero_of_lt hmore)
    have hsize : 0 < target.length := List.length_pos_iff.2 (Path.ne_nil_of_isAbsolute habs)
    have hroom : Path.maxLength < levels + target.length := by omega
    rw [copyLevels_succ hfs habs hroom, ih]

end FileSystem
end LineShell
