import LineShell.Proofs.DirectoryCopy
import LineShell.Proofs.Painting
import Mathlib.Data.List.Perm.Subperm

/-!
# The tree of a directory

What tree shows of a directory below which there are no links, and in which every directory can be
read: a line for each entry at any depth. A directory comes before what lies below it, and entries
of one directory come in the order of the bytes of their names.
-/
namespace LineShell

/-! ## The entries below a directory -/

/-- Whether a place comes before another: a directory comes before what lies below it, and of two
entries of one directory that whose name has the lesser bytes comes first, with all that lies below
it. -/
def Place.Precedes (p q : Place) : Prop :=
  (∃ below, below ≠ [] ∧ q = p ++ below) ∨
    ∃ (dir : Place) (a : Name) (rest : Place) (b : Name) (rest' : Place),
      p = dir ++ a :: rest ∧ q = dir ++ b :: rest' ∧ a < b

/-- So places are ordered like words whose letters are names. -/
theorem Place.Precedes.lt {p q : Place} (h : p.Precedes q) : p < q := by
  obtain ⟨below, hne, rfl⟩ | ⟨dir, a, rest, b, rest', rfl, rfl, hlt⟩ := h
  · obtain ⟨name, below, rfl⟩ := List.exists_cons_of_ne_nil hne
    have hempty : p ++ [] < p ++ name :: below := List.append_left_lt (List.nil_lt_cons name below)
    rwa [List.append_nil] at hempty
  · exact List.append_left_lt (List.cons_lt_cons_iff.2 (.inl hlt))

namespace Node

mutual

/-- The number of entries below a node. -/
def entryCount : Node → ℕ
  | .dir es => entriesCount es
  | _ => 0

/-- The number of entries, with all that lie below them. -/
def entriesCount : Entries → ℕ
  | [] => 0
  | (_, node) :: rest => 1 + entryCount node + entriesCount rest

end

/-- What holds of a directory if it holds of all entries, and of all that is no directory, holds of
every node. -/
theorem induction {motive : Node → Prop} (leaf : ∀ node, node.isDir = false → motive node)
    (dir : ∀ es : Entries, (∀ e ∈ es, motive e.2) → motive (.dir es)) (node : Node) :
    motive node := by
  refine @Node.rec motive (fun es => ∀ e ∈ es, motive e.2) (fun e => motive e.2)
    ?_ ?_ ?_ dir ?_ ?_ ?_ node
  · exact fun _ _ => leaf _ rfl
  · exact fun _ => leaf _ rfl
  · exact leaf _ rfl
  · exact fun _ h => absurd h List.not_mem_nil
  · exact fun e es hfirst hrest => List.forall_mem_cons.2 ⟨hfirst, hrest⟩
  · exact fun _ _ h => h

/-- An entry, and all that lies below it. -/
def entryListing (here : Place) (e : Name × Node) : List (Place × Node) :=
  (here ++ [e.1], e.2) :: listing (here ++ [e.1]) e.2

theorem listings_eq_map (here : Place) (es : Entries) :
    listings here es = es.map fun e => (e.1, entryListing here e) := by
  induction es with
  | nil => rfl
  | cons e es ih =>
    rw [listings, ih]
    rfl

theorem listing_dir (here : Place) (es : Entries) :
    listing here (.dir es) = (sortEntries es).flatMap (entryListing here) := by
  have hsorted := List.map_mergeSort (r := fun a b : Name × Node => decide (a.1 ≤ b.1))
    (s := fun a b => decide (a.1 ≤ b.1)) (f := fun e => (e.1, entryListing here e)) (l := es)
    fun _ _ _ _ => rfl
  rw [listing, listings_eq_map, ← hsorted, List.flatMap_map, sortEntries]

theorem listing_of_isDir_eq_false {node : Node} (h : node.isDir = false) (here : Place) :
    listing here node = [] := by
  cases node with
  | dir es => contradiction
  | _ => rfl

theorem sortEntries_perm (es : Entries) : (sortEntries es).Perm es :=
  List.mergeSort_perm es _

theorem length_flatMap_entryListing {es : Entries}
    (h : ∀ e ∈ es, ∀ here, (listing here e.2).length = e.2.entryCount) (here : Place) :
    (es.flatMap (entryListing here)).length = entriesCount es := by
  induction es with
  | nil => rfl
  | cons e es ih =>
    rw [List.forall_mem_cons] at h
    rw [List.flatMap_cons, List.length_append, ih h.2, entryListing, List.length_cons, h.1,
      entriesCount, Nat.add_comm 1]

theorem length_listing (node : Node) (here : Place) :
    (listing here node).length = node.entryCount := by
  induction node using Node.induction generalizing here with
  | leaf node h =>
    rw [listing_of_isDir_eq_false h]
    cases node with
    | dir es => contradiction
    | _ => rfl
  | dir es ih =>
    rw [listing_dir, ((sortEntries_perm es).flatMap_right _).length_eq,
      length_flatMap_entryListing ih, entryCount]

/-- Where no two names are the same, the entries are sorted by the bytes of the names. -/
theorem pairwise_sortEntries {es : Entries} (h : (es.map (·.1)).Nodup) :
    (sortEntries es).Pairwise fun a b => a.1 < b.1 := by
  have hdistinct : ((sortEntries es).map (·.1)).Nodup :=
    ((sortEntries_perm es).map _).nodup_iff.2 h
  have hsorted : (sortEntries es).Pairwise fun a b => decide (a.1 ≤ b.1) :=
    List.pairwise_mergeSort (by simpa using fun _ _ _ => List.le_trans)
      (by simpa using fun _ _ => List.le_total _ _) es
  refine (hsorted.and (List.pairwise_map.1 hdistinct)).imp fun hle => ?_
  exact (List.le_iff_lt_or_eq.1 (of_decide_eq_true hle.1)).resolve_right hle.2

end Node

namespace FileSystem
variable {fs : FileSystem} {S place : Place} {name : Name} {node child : Node} {es : Entries}

/-- What lies below a directory is one of its entries, or lies below one. -/
theorem Proper.exists_entry_of_below (hfs : fs.Proper) (hdir : fs.node? S = some (.dir es))
    {below : Place} (hne : below ≠ []) (hbelow : fs.node? (S ++ below) = some node) :
    ∃ e ∈ es, ∃ rest, below = e.1 :: rest ∧ fs.node? (S ++ [e.1]) = some e.2 := by
  obtain ⟨name, rest, rfl⟩ := List.exists_cons_of_ne_nil hne
  have hentry : fs.node? (S ++ [name] ++ rest) = some node := by simpa using hbelow
  rw [node?_append, Option.bind_eq_some_iff] at hentry
  obtain ⟨child, hchild, -⟩ := hentry
  exact ⟨(name, child), (hfs.mem_entries_iff hdir).2 hchild, rest, rfl, hchild⟩

theorem Proper.mem_listing (hfs : fs.Proper) (hnode : fs.node? S = some node) (here : Place) :
    (place, child) ∈ node.listing here ↔
      ∃ below, below ≠ [] ∧ place = here ++ below ∧ fs.node? (S ++ below) = some child := by
  induction node using Node.induction generalizing S here with
  | leaf node h =>
    rw [Node.listing_of_isDir_eq_false h]
    refine iff_of_false List.not_mem_nil ?_
    rintro ⟨_ | ⟨name, rest⟩, hne, -, hbelow⟩
    · contradiction
    · obtain ⟨es, hdir⟩ := exists_dir_of_below hbelow
      cases hnode.symm.trans hdir
      contradiction
  | dir es ih =>
    have hentry {e : Name × Node} (he : e ∈ es) : fs.node? (S ++ [e.1]) = some e.2 :=
      (hfs.mem_entries_iff hnode).1 he
    rw [Node.listing_dir, List.mem_flatMap]
    constructor
    · rintro ⟨e, he, hmem⟩
      have he' := (Node.sortEntries_perm es).mem_iff.1 he
      obtain heq | hmem := List.mem_cons.1 hmem
      · cases heq
        exact ⟨[e.1], by simp, rfl, hentry he'⟩
      · obtain ⟨below, -, rfl, hbelow⟩ := (ih e he' (hentry he') _).1 hmem
        exact ⟨e.1 :: below, by simp, by simp, by simpa using hbelow⟩
    · rintro ⟨below, hne, rfl, hbelow⟩
      obtain ⟨e, he, rest, rfl, hchild⟩ := hfs.exists_entry_of_below hnode hne hbelow
      refine ⟨e, (Node.sortEntries_perm es).mem_iff.2 he, ?_⟩
      by_cases hrest : rest = []
      · subst hrest
        cases hchild.symm.trans hbelow
        exact List.mem_cons_self
      · apply List.mem_cons_of_mem
        exact (ih e he hchild _).2 ⟨rest, hrest, by simp, by simpa using hbelow⟩

theorem Proper.exists_below_of_mem (hfs : fs.Proper) {e : Name × Node}
    (hentry : fs.node? (S ++ [e.1]) = some e.2) {here : Place}
    (hmem : (place, child) ∈ Node.entryListing here e) : ∃ below, place = here ++ e.1 :: below := by
  obtain heq | hmem := List.mem_cons.1 hmem
  · cases heq
    exact ⟨[], rfl⟩
  · obtain ⟨below, -, rfl, -⟩ := (hfs.mem_listing hentry _).1 hmem
    exact ⟨below, by simp⟩

theorem Proper.pairwise_listing (hfs : fs.Proper) (hnode : fs.node? S = some node) (here : Place) :
    (node.listing here).Pairwise fun a b => a.1.Precedes b.1 := by
  induction node using Node.induction generalizing S here with
  | leaf node h =>
    rw [Node.listing_of_isDir_eq_false h]
    exact .nil
  | dir es ih =>
    have hentry {e : Name × Node} (he : e ∈ Node.sortEntries es) :
        fs.node? (S ++ [e.1]) = some e.2 :=
      (hfs.mem_entries_iff hnode).1 ((Node.sortEntries_perm es).mem_iff.1 he)
    rw [Node.listing_dir, List.pairwise_flatMap]
    constructor
    · intro e he
      refine List.pairwise_cons.2 ⟨?_, ih e ((Node.sortEntries_perm es).mem_iff.1 he) (hentry he) _⟩
      rintro ⟨place, child⟩ hmem
      obtain ⟨below, hne, rfl, -⟩ := (hfs.mem_listing (hentry he) _).1 hmem
      exact .inl ⟨below, hne, rfl⟩
    · have hsorted := Node.pairwise_sortEntries (hfs.nodup hnode)
      refine hsorted.imp_of_mem fun {e e'} he he' hlt => ?_
      rintro ⟨p, n⟩ hp ⟨q, m⟩ hq
      obtain ⟨below, rfl⟩ := hfs.exists_below_of_mem (hentry he) hp
      obtain ⟨below', rfl⟩ := hfs.exists_below_of_mem (hentry he') hq
      exact .inr ⟨here, e.1, below, e'.1, below', rfl, rfl, hlt⟩

/-! ## What can be shown of a directory -/

theorem length_le_of_isDir {path : Path} (h : fs.isDir path = true) :
    path.length ≤ Path.maxLength := by
  obtain ⟨place, es, last, slash, hlocate⟩ := exists_locate_of_isDir h
  by_contra hlong
  have hnul := noNul_of_locate hlocate
  rw [locate] at hlocate
  simp [hnul, Nat.not_le.1 hlong] at hlocate

/-- A path leads to a directory below which there are no links, and every directory there can be
read. -/
structure OpenTree (fs : FileSystem) (path : Path) (S : Place) : Prop where
  leads : ∃ es, fs.resolve path = .ok (S, .dir es)
  noLink : ∀ below node, fs.node? (S ++ below) = some node → node.isLink = false
  readable : ∀ below es, fs.node? (S ++ below) = some (.dir es) →
    ∃ es', fs.readDir (below.foldl Path.join path) = .ok es'

namespace OpenTree
variable {path : Path} (h : fs.OpenTree path S)
include h

theorem isDir : fs.isDir path = true := by
  obtain ⟨es, hresolve⟩ := h.leads
  exact isDir_iff.2 ⟨S, es, hresolve⟩

theorem exists_readDir : ∃ es, fs.node? S = some (.dir es) ∧ fs.readDir path = .ok es := by
  obtain ⟨es, hresolve⟩ := h.leads
  exact ⟨es, node?_of_resolve hresolve, readDir_eq_ok_iff.2 ⟨S, hresolve⟩⟩

theorem lists (hfs : fs.Proper) (hnode : fs.node? (S ++ [name]) = some node) :
    fs.Lists path S name node := by
  obtain ⟨es, hresolve⟩ := h.leads
  exact hfs.lists hresolve ((hfs.mem_entries_iff (node?_of_resolve hresolve)).2 hnode)

/-- The path of an entry leads to a directory if the entry is one. -/
theorem isDir_join (hfs : fs.Proper) (hnode : fs.node? (S ++ [name]) = some node) :
    fs.isDir (Path.join path name) = node.isDir := by
  have hlists := h.lists hfs hnode
  have hlink := h.noLink [name] node hnode
  cases hdir : node.isDir with
  | true =>
    obtain ⟨es, rfl⟩ := Node.isDir_eq_true_iff.1 hdir
    obtain ⟨es', hread⟩ := h.readable [name] es hnode
    obtain ⟨place, hresolve⟩ := readDir_eq_ok_iff.1 hread
    exact isDir_iff.2 ⟨place, es', hresolve⟩
  | false =>
    by_contra hfound
    rw [Bool.not_eq_false] at hfound
    obtain ⟨place, es, last, slash, hlocate⟩ := exists_locate_of_isDir hfound
    have hresolve := hlists.resolve_join hlink hlocate
    rw [FileSystem.isDir, hresolve] at hfound
    exact Bool.false_ne_true (hdir.symm.trans hfound)

theorem entry (hfs : fs.Proper) (hnode : fs.node? (S ++ [name]) = some (.dir es)) :
    fs.OpenTree (Path.join path name) (S ++ [name]) := by
  obtain ⟨es', hread⟩ := h.readable [name] es hnode
  obtain ⟨place, hfound⟩ := readDir_eq_ok_iff.1 hread
  obtain ⟨last, slash, hlocate, -⟩ := resolve_eq_ok_iff.1 hfound
  constructor
  case leads => exact ⟨es, (h.lists hfs hnode).resolve_join rfl hlocate⟩
  case noLink =>
    intro below node hbelow
    rw [List.append_assoc] at hbelow
    exact h.noLink _ node hbelow
  case readable =>
    intro below es hbelow
    rw [List.append_assoc] at hbelow
    exact h.readable (name :: below) es hbelow

end OpenTree
end FileSystem

/-! ## The lines -/

theorem Path.fileName?_entry {base : Path} (hbase : base ≠ []) {name : Name}
    (hname : Path.IsFileName name) : Path.fileName? (Path.join base name) = some name := by
  obtain ⟨⟨hdot, hdots, -⟩, hsegment⟩ := hname
  have hcounts : Path.isSkipped name = false := by simp [Path.isSkipped, hsegment.1, hdot]
  have hcounted : Path.counted name = [name] := by
    rw [Path.counted, Path.splitSlash_of_notMem hsegment.2]
    simp [hcounts]
  have hlast : Path.ofSegment name = .name name := if_neg hdots
  rw [Path.fileName?, Path.components_eq,
    Path.counted_join hbase hsegment.isAbsolute_eq_false, hcounted, List.map_append,
    ← List.append_assoc]
  simp [hlast]

namespace Builtin
open FileSystem
open Palette (plain)
variable {fs : FileSystem} {S : Place} {path : Path}

/-- As many dashes as stand before the entries so many directories further down. -/
def dashes (levels : ℕ) : String :=
  String.ofList (List.replicate (7 * levels) '-')

@[simp] theorem dashes_zero : dashes 0 = "" := rfl

theorem dashes_succ (levels : ℕ) : dashes (levels + 1) = dashes levels ++ treeIndent := by
  rw [dashes, dashes, treeIndent, Nat.mul_succ, ← List.replicate_append_replicate,
    String.ofList_append]
  rfl

/-- The line of an entry at a place: dashes for every directory that it lies in, its name, and a
slash if it is a directory. -/
def treeLine (place : Place) (node : Node) : String :=
  dashes place.length ++ Utf8.lossy (place.getLast?.getD []) ++ if node.isDir then "/" else ""

theorem treeHeading_entry (hpath : path ≠ []) {name : Name} (hname : Path.IsFileName name)
    (here : Place) (es : Entries) :
    treeHeading plain (dashes (here.length + 1)) (Path.join path name) =
      treeLine (here ++ [name]) (.dir es) := by
  rw [treeHeading, treeLine, Path.fileName?_entry hpath hname]
  simp [Palette.paint, plain, Node.isDir]

/-- The lines of a directory and of all below it, given a depth which no path can have. -/
theorem treeLevels_eq (hfs : fs.Proper) (h : fs.OpenTree path S) {depth : ℕ}
    (hdepth : Path.maxLength < depth + path.length) (here : Place) {es : Entries}
    (hdir : fs.node? S = some (.dir es)) :
    treeLevels plain fs depth (dashes here.length) path =
      treeHeading plain (dashes here.length) path ::
        ((Node.dir es).listing here).map fun e => treeLine e.1 e.2 := by
  induction depth generalizing path S here es with
  | zero =>
    have hfits := length_le_of_isDir h.isDir
    omega
  | succ depth ih =>
    obtain ⟨es', hdir', hread⟩ := h.exists_readDir
    cases hdir.symm.trans hdir'
    have hentry (e : Name × Node) (he : e ∈ Node.sortEntries es) :
        (if fs.isDir (Path.join path e.1) then
            treeLevels plain fs depth (dashes (here.length + 1)) (Path.join path e.1)
          else [plain.paint .cyan (dashes (here.length + 1)) ++ Utf8.lossy e.1]) =
        (Node.entryListing here e).map fun e => treeLine e.1 e.2 := by
      obtain ⟨name, node⟩ := e
      have hnode : fs.node? (S ++ [name]) = some node :=
        (hfs.mem_entries_iff hdir).1 ((Node.sortEntries_perm es).mem_iff.1 he)
      have hlists := h.lists hfs hnode
      rw [h.isDir_join hfs hnode, Node.entryListing, List.map_cons]
      cases hnodeDir : node.isDir with
      | true =>
        obtain ⟨es', rfl⟩ := Node.isDir_eq_true_iff.1 hnodeDir
        have hlonger := Path.length_lt_length_join hlists.isFileName.2 path
        have hrest := ih (h.entry hfs hnode) (by omega) (here ++ [name]) hnode
        rw [List.length_append, List.length_singleton] at hrest
        rw [if_pos rfl, hrest, treeHeading_entry hlists.ne_nil hlists.isFileName]
      | false =>
        rw [if_neg (by simp), Node.listing_of_isDir_eq_false hnodeDir, treeLine, hnodeDir]
        simp [Palette.paint, plain]
    rw [treeLevels, hread, ← dashes_succ, Node.listing_dir, List.map_flatMap]
    dsimp only
    rw [treeEntries, List.flatMap_congr hentry]

/-- What tree shows without colours is a line for the directory, and behind it one for each entry
below, in order. The depth at which it stops is never reached. -/
theorem runTree_lists {cwd : Path} {args : List String} (hfs : fs.Proper)
    (h : fs.OpenTree (placeOrHere cwd args) S) :
    ∃ entries : List (Place × Node),
      let dir := placeOrHere cwd args
      let lines := (Utf8.lossy ((Path.fileName? dir).getD dir) ++ "/") ::
        entries.map fun e => treeLine e.1 e.2
      runTree plain cwd args fs = .ok (.text ("\n".intercalate lines)) ∧
      (∀ depth, Path.maxLength < depth → treeLevels plain fs depth "" dir = lines) ∧
      (∀ place node, (place, node) ∈ entries ↔ place ≠ [] ∧ fs.node? (S ++ place) = some node) ∧
      entries.Pairwise (fun a b => a.1.Precedes b.1) ∧
      ∃ es, fs.node? S = some (.dir es) ∧ lines.length = 1 + Node.entriesCount es := by
  obtain ⟨es, hresolve⟩ := h.leads
  have hdir := node?_of_resolve hresolve
  have hlines (depth : ℕ) (hdepth : Path.maxLength < depth) :=
    treeLevels_eq hfs h (Nat.lt_add_right _ hdepth) [] hdir
  have hheading : treeHeading plain "" (placeOrHere cwd args) =
      Utf8.lossy ((Path.fileName? (placeOrHere cwd args)).getD (placeOrHere cwd args)) ++ "/" := by
    simp [treeHeading, Palette.paint, plain]
  rw [List.length_nil, dashes_zero, hheading] at hlines
  refine ⟨(Node.dir es).listing [], ?_, hlines, fun place node => ?_,
    hfs.pairwise_listing hdir [], es, hdir, ?_⟩
  · rw [runTree, if_pos h.isDir, hlines _ (Nat.lt_add_one _)]
  · simp [hfs.mem_listing hdir]
  · simp [Node.length_listing, Node.entryCount, Nat.add_comm]

/-! ## A tree with entries beside each other -/

/-- A directory beside files, in no order, with a directory beside a file in it. -/
def siblings : Entries :=
  [("é", .file [1] false), ("d", .dir [("f", .file [2] false), ("e", .dir [])]),
    ("D", .file [3] false)]

def withSiblings : FileSystem :=
  ⟨[("a", .dir siblings)]⟩

theorem proper_withSiblings : withSiblings.Proper :=
  proper_of_passes (by decide)

theorem openTree_siblings : withSiblings.OpenTree "/a" ["a"] := by
  constructor
  case leads =>
    exact ⟨_, resolve_of_entryNames (by decide) (by decide) rfl (by decide) (by decide)⟩
  case noLink =>
    intro below node hnode
    have hpassed := test_of_node? (fun _ node => !node.isLink) rfl (by decide) hnode
    simpa using hpassed
  case readable =>
    intro below es hnode
    have hpassed := test_of_node? (fun below node => !node.isDir || decide
      (Path.names (below.foldl Path.join "/a") = (["a"] : Place) ++ below ∧
        (∀ name ∈ (["a"] : Place) ++ below, Path.IsEntryName name) ∧
        below.foldl Path.join "/a" ≠ [] ∧
        Path.Fits (below.foldl Path.join "/a"))) rfl (by decide) hnode
    obtain ⟨hnames, hentries, hne, hfits⟩ := of_decide_eq_true hpassed
    exact ⟨es, readDir_eq_ok_iff.2 ⟨_, resolve_of_entryNames hnames hentries hnode hne hfits⟩⟩

/-- Every entry has its line, those of one directory in the order of their bytes. -/
theorem runTree_lists_nested : withSiblings.Proper ∧
    withSiblings.OpenTree (placeOrHere "/a" []) ["a"] ∧
    runTree plain "/a" [] withSiblings = .ok (.text ("\n".intercalate
      ["a/", "-------D", "-------d/", "--------------e/", "--------------f", "-------é"])) := by
  let listed : List (Place × Node) :=
    [(["D"], .file [3] false), (["d"], .dir [("f", .file [2] false), ("e", .dir [])]),
      (["d", "e"], .dir []), (["d", "f"], .file [2] false), (["é"], .file [1] false)]
  obtain ⟨entries, hrun, -, hmem, hsorted, es, hdir, hlength⟩ :=
    runTree_lists proper_withSiblings (show withSiblings.OpenTree (placeOrHere "/a" []) ["a"] from
      openTree_siblings)
  obtain rfl : siblings = es := by
    cases hdir
    rfl
  -- five entries are listed, and these are five
  have hcount : Node.entriesCount siblings = listed.length := rfl
  rw [List.length_cons, List.length_map, hcount] at hlength
  have hordered : listed.Pairwise fun a b => a.1 < b.1 := by decide
  have hlisted : listed ⊆ entries := by
    intro e he
    obtain ⟨place, node⟩ := e
    simp only [listed, List.mem_cons, Prod.mk.injEq, List.not_mem_nil, or_false] at he
    obtain ⟨rfl, rfl⟩ | ⟨rfl, rfl⟩ | ⟨rfl, rfl⟩ | ⟨rfl, rfl⟩ | ⟨rfl, rfl⟩ := he <;>
      exact (hmem _ _).2 ⟨by decide, rfl⟩
  have hnodup : listed.Nodup := by
    refine List.Pairwise.imp (fun hlt heq => ?_) hordered
    rw [heq] at hlt
    exact List.lt_irrefl _ hlt
  have hperm : listed.Perm entries :=
    (List.subperm_of_subset hnodup hlisted).perm_of_length_le (by omega)
  obtain rfl : listed = entries := hperm.eq_of_pairwise
    (fun a b _ _ hlt hgt => absurd hgt (List.lt_asymm hlt)) hordered
    (hsorted.imp Place.Precedes.lt)
  refine ⟨proper_withSiblings, openTree_siblings, hrun.trans ?_⟩
  have hname : (Path.fileName? "/a").getD "/a" = Utf8.encode "a" := by decide
  simp [listed, placeOrHere, hname, treeLine, dashes, Node.isDir]

end Builtin
end LineShell
