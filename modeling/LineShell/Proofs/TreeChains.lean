import LineShell.Proofs.TreeListing
import Mathlib.Data.List.Chain

/-!
# How deep a tree is shown

Tree goes from a directory to those that its entries lead to, and follows links. A chain of such
steps may come to a directory again by a link. It ends since the system follows no more than so
many links in one path, and takes no path that is too long. Each directory is met once more for
every link on the chain at most, and only once unless a link leads to a directory that the chain has
been in, or above one.
-/
namespace LineShell

/-! ## One step -/

namespace Builtin
variable {fs : FileSystem} {palette : Palette} {dir next : Path} {depth depth' : ℕ}

/-- The paths on which tree calls itself when it shows a directory. -/
def treeCalls (fs : FileSystem) (dir : Path) : List Path :=
  match fs.readDir dir with
  | .error _ => []
  | .ok es => ((Node.sortEntries es).map fun e => Path.join dir e.1).filter (fs.isDir ·)

theorem treeCalls_of_readDir {es : Entries} (h : fs.readDir dir = .ok es) :
    treeCalls fs dir =
      ((Node.sortEntries es).map fun e => Path.join dir e.1).filter (fs.isDir ·) := by
  rw [treeCalls, h]

theorem mem_treeCalls_iff : next ∈ treeCalls fs dir ↔
    ∃ es name node, fs.readDir dir = .ok es ∧ (name, node) ∈ es ∧ next = Path.join dir name ∧
      fs.isDir next = true := by
  cases hread : fs.readDir dir with
  | error e => simp [treeCalls, hread]
  | ok es =>
    rw [treeCalls_of_readDir hread, List.mem_filter, List.mem_map]
    constructor
    · rintro ⟨⟨e, he, rfl⟩, hdir⟩
      exact ⟨es, e.1, e.2, rfl, (Node.sortEntries_perm es).mem_iff.1 he, rfl, hdir⟩
    · rintro ⟨_, name, node, heq, hmem, rfl, hdir⟩
      cases heq
      exact ⟨⟨_, (Node.sortEntries_perm es).mem_iff.2 hmem, rfl⟩, hdir⟩

theorem treeEntries_congr {subtree subtree' : Path → List String} {entries : Entries}
    (h : ∀ e ∈ entries, fs.isDir (Path.join dir e.1) = true →
      subtree (Path.join dir e.1) = subtree' (Path.join dir e.1)) (indent : String) :
    treeEntries subtree palette fs indent dir entries =
      treeEntries subtree' palette fs indent dir entries := by
  unfold treeEntries
  apply List.flatMap_congr
  intro e he
  by_cases hdir : fs.isDir (Path.join dir e.1) = true
  · simp only [hdir, if_true, h e he hdir]
  · simp only [hdir, Bool.false_eq_true, if_false]

/-- What tree shows of a directory depends on what it shows of those that it calls itself on. -/
theorem treeLevels_congr {indent : String}
    (h : ∀ next ∈ treeCalls fs dir, treeLevels palette fs depth' (indent ++ treeIndent) next =
      treeLevels palette fs depth (indent ++ treeIndent) next) :
    treeLevels palette fs (depth' + 1) indent dir =
      treeLevels palette fs (depth + 1) indent dir := by
  unfold treeLevels
  cases hread : fs.readDir dir with
  | error e => rfl
  | ok es =>
    rw [treeCalls_of_readDir hread] at h
    dsimp only
    rw [treeEntries_congr fun e he hdir => h _ (List.mem_filter.2 ⟨List.mem_map_of_mem he, hdir⟩)]

/-- What tree shows of a directory has in it what it shows of one that it calls itself on. -/
theorem treeLevels_isInfix (h : next ∈ treeCalls fs dir) (indent : String) :
    treeLevels palette fs depth (indent ++ treeIndent) next <:+:
      treeLevels palette fs (depth + 1) indent dir := by
  obtain ⟨es, name, node, hread, hmem, rfl, hdir⟩ := mem_treeCalls_iff.1 h
  obtain ⟨front, back, hsorted⟩ :=
    List.append_of_mem ((Node.sortEntries_perm es).mem_iff.2 hmem)
  rw [treeLevels, hread]
  dsimp only
  rw [treeEntries, hsorted, List.flatMap_append, List.flatMap_cons]
  dsimp only
  rw [if_pos hdir, ← List.append_assoc, ← List.cons_append, ← List.cons_append]
  exact List.infix_append _ _ _

end Builtin

namespace FileSystem
open Builtin (treeCalls mem_treeCalls_iff)
variable {fs : FileSystem} {dir next path : Path} {place : Place} {links : ℕ} {name : Name}
  {node : Node} {chain : List Path}

def placeOf (fs : FileSystem) (path : Path) : Place :=
  match fs.resolve path with
  | .ok (place, _) => place
  | .error _ => []

def namesLink (fs : FileSystem) (path : Path) : Bool :=
  match fs.locate .keep path with
  | .ok (.found _ node _ _) => node.isLink
  | _ => false

theorem placeOf_of_resolve (h : fs.resolve path = .ok (place, node)) : fs.placeOf path = place := by
  rw [placeOf, h]

theorem resolve_of_isDir (h : fs.isDir path = true) :
    ∃ es, fs.resolve path = .ok (fs.placeOf path, .dir es) := by
  obtain ⟨place, es, hresolve⟩ := isDir_iff.1 h
  exact ⟨es, by rwa [placeOf_of_resolve hresolve]⟩

theorem exists_locate_placeOf (h : fs.isDir path = true) : ∃ es last slash,
    fs.locate .follow path = .ok (.found (fs.placeOf path) (.dir es) last slash) := by
  obtain ⟨es, hresolve⟩ := resolve_of_isDir h
  obtain ⟨last, slash, hlocate, -⟩ := resolve_eq_ok_iff.1 hresolve
  exact ⟨es, last, slash, hlocate⟩

theorem exists_dir_placeOf (h : fs.isDir path = true) :
    ∃ es, fs.node? (fs.placeOf path) = some (.dir es) := by
  obtain ⟨es, hresolve⟩ := resolve_of_isDir h
  exact ⟨es, node?_of_resolve hresolve⟩

/-- A walk that goes on from a path goes on from the place that this leads to, with so many links
left that it may follow. -/
def LinksLeft (fs : FileSystem) (path : Path) (links : ℕ) : Prop :=
  ∀ rest, rest ≠ [] → ∀ lastLink slash,
    fs.walk lastLink maxLinks [] (Path.names path ++ rest) slash =
      fs.walk lastLink links (fs.placeOf path) rest slash

theorem exists_linksLeft (h : fs.isDir path = true) :
    ∃ links ≤ maxLinks, fs.LinksLeft path links := by
  obtain ⟨es, last, slash, hlocate⟩ := exists_locate_placeOf h
  exact (LeadsToDir.of_walks (walks_of_walk_eq (walk_of_locate hlocate)) rfl).exists_links_left

/-- A step of tree: it calls itself on an entry of a directory, and that is a directory or a link
that leads to one. -/
structure Steps (fs : FileSystem) (dir next : Path) (name : Name) (node : Node) : Prop where
  lists : fs.Lists dir (fs.placeOf dir) name node
  next_eq : next = Path.join dir name
  isDir : fs.isDir next = true

theorem Proper.exists_steps (hfs : fs.Proper) (h : next ∈ treeCalls fs dir) :
    ∃ name node, fs.Steps dir next name node := by
  obtain ⟨es, name, node, hread, hmem, hnext, hdir⟩ := mem_treeCalls_iff.1 h
  obtain ⟨place, hresolve⟩ := readDir_eq_ok_iff.1 hread
  have hplace := placeOf_of_resolve hresolve
  exact ⟨name, node, hplace ▸ hfs.lists hresolve hmem, hnext, hdir⟩

namespace Steps
variable (h : fs.Steps dir next name node)
include h

theorem exists_locate : ∃ a, fs.locate .follow (Path.join dir name) = .ok a := by
  obtain ⟨es, last, slash, hlocate⟩ := exists_locate_placeOf h.isDir
  exact ⟨_, h.next_eq ▸ hlocate⟩

theorem namesLink_eq : fs.namesLink next = node.isLink := by
  obtain ⟨a, ha⟩ := h.exists_locate
  rw [namesLink, h.next_eq, h.lists.locate_join ha (by simp)]

theorem length_lt : dir.length < next.length := by
  rw [h.next_eq]
  exact Path.length_lt_length_join h.lists.isFileName.2 dir

theorem placeOf_eq (hlink : node.isLink = false) :
    fs.placeOf next = fs.placeOf dir ++ [name] := by
  obtain ⟨a, ha⟩ := h.exists_locate
  rw [h.next_eq]
  exact placeOf_of_resolve (h.lists.resolve_join hlink ha)

theorem walk_next (hleft : fs.LinksLeft dir links) (rest : List Name) (lastLink : LastLink)
    (slash : Bool) : fs.walk lastLink maxLinks [] (Path.names next ++ rest) slash =
      fs.walk lastLink links (fs.placeOf dir) (name :: rest) slash := by
  rw [h.next_eq, h.lists.names_join, List.append_assoc, List.singleton_append,
    hleft _ (List.cons_ne_nil name rest)]

theorem linksLeft_of_dir (hleft : fs.LinksLeft dir links) (hlink : node.isLink = false) :
    fs.LinksLeft next links := by
  obtain ⟨es, hdir⟩ := exists_dir_placeOf h.isDir
  rw [h.placeOf_eq hlink] at hdir
  intro rest hrest lastLink slash
  rw [h.walk_next hleft, walk_past_dir hrest h.lists.isFileName.1 hdir, h.placeOf_eq hlink]

theorem linksLeft_of_link (hleft : fs.LinksLeft dir links) (hlink : node.isLink = true) :
    ∃ links', links' + 1 ≤ links ∧ fs.LinksLeft next links' := by
  obtain ⟨target, rfl⟩ := Node.isLink_eq_true_iff.1 hlink
  obtain ⟨es, last, slash, hlocate⟩ := exists_locate_placeOf h.isDir
  obtain ⟨es', hdir⟩ := h.lists.exists_dir
  have hthere := h.lists.there
  have hlookup := hthere
  rw [node?_append_singleton fs hdir] at hlookup
  have hwalk := walk_of_locate hlocate
  rw [← List.append_nil (Path.names next), h.walk_next hleft,
    walk_link hdir h.lists.isFileName.1 hlookup (.inr (.inl rfl))] at hwalk
  cases links with
  | zero => contradiction
  | succ links =>
    have hleads := LeadsToDir.of_walks (walks_of_walk_eq hwalk) rfl
    obtain ⟨links', hle, hmore⟩ := hleads.exists_links_left
    refine ⟨links', Nat.succ_le_succ hle, fun rest hrest lastLink slash => ?_⟩
    rw [List.append_nil] at hmore
    rw [h.walk_next hleft, walk_past_link hrest h.lists.isFileName.1 hthere, hmore rest hrest]

end Steps

/-! ## Chains of steps -/

/-- Tree is called on a directory, and on each of the others when it shows the one before. -/
abbrev TreeChain (fs : FileSystem) (dir : Path) (chain : List Path) : Prop :=
  (dir :: chain).IsChain fun path next => next ∈ treeCalls fs path

section
variable (hfs : fs.Proper)
include hfs

/-- Every link on a chain is one of those that the system follows in a single path. -/
theorem Proper.countP_namesLink_le (h : fs.TreeChain dir chain) (hleft : fs.LinksLeft dir links) :
    chain.countP fs.namesLink ≤ links := by
  induction chain generalizing dir links with
  | nil => simp
  | cons next chain ih =>
    obtain ⟨hcall, hrest⟩ := List.isChain_cons_cons.1 h
    obtain ⟨name, node, hstep⟩ := hfs.exists_steps hcall
    rw [List.countP_cons, hstep.namesLink_eq]
    cases hlink : node.isLink with
    | true =>
      obtain ⟨links', hle, hleft'⟩ := hstep.linksLeft_of_link hleft hlink
      have hmore := ih hrest hleft'
      rw [if_pos rfl]
      omega
    | false => simpa using ih hrest (hstep.linksLeft_of_dir hleft hlink)

/-- Between two links a chain goes down only. So it meets a directory once more than there are links
at most, and no more often than that if it starts further down. -/
theorem Proper.count_placeOf_le (h : fs.TreeChain dir chain) (place : Place) :
    ((dir :: chain).map fs.placeOf).count place ≤ chain.countP fs.namesLink + 1 ∧
      (place.length < (fs.placeOf dir).length →
        ((dir :: chain).map fs.placeOf).count place ≤ chain.countP fs.namesLink) := by
  induction chain generalizing dir with
  | nil =>
    refine ⟨List.count_le_length, fun hlt => Nat.le_of_eq (List.count_eq_zero.2 ?_)⟩
    rw [List.map_singleton, List.mem_singleton]
    rintro rfl
    exact Nat.lt_irrefl _ hlt
  | cons next chain ih =>
    obtain ⟨hcall, hrest⟩ := List.isChain_cons_cons.1 h
    obtain ⟨name, node, hstep⟩ := hfs.exists_steps hcall
    obtain ⟨hmost, hfewer⟩ := ih hrest
    rw [List.map_cons, List.count_cons, List.countP_cons, hstep.namesLink_eq]
    cases hlink : node.isLink with
    | true =>
      rw [if_pos rfl]
      by_cases hplace : fs.placeOf dir = place
      · simp only [hplace, beq_self_eq_true, if_true]
        omega
      · simp only [beq_false_of_ne hplace, Bool.false_eq_true, if_false]
        omega
    | false =>
      rw [hstep.placeOf_eq hlink, List.length_append, List.length_singleton] at hfewer
      by_cases hplace : fs.placeOf dir = place
      · simp only [hplace, beq_self_eq_true, if_true] at hfewer ⊢
        omega
      · simp only [beq_false_of_ne hplace, Bool.false_eq_true, if_false]
        omega

theorem Proper.length_le_of_treeChain (h : fs.TreeChain dir chain) (hdir : fs.isDir dir = true) :
    dir.length + chain.length ≤ Path.maxLength := by
  induction chain generalizing dir with
  | nil => simpa using length_le_of_isDir hdir
  | cons next chain ih =>
    obtain ⟨hcall, hrest⟩ := List.isChain_cons_cons.1 h
    obtain ⟨name, node, hstep⟩ := hfs.exists_steps hcall
    have hlonger := hstep.length_lt
    have hmore := ih hrest hstep.isDir
    rw [List.length_cons]
    omega

/-- A chain does not come to a directory or above it as long as no link on it leads there. -/
theorem Proper.not_isPrefix_of_mem (h : fs.TreeChain dir chain)
    (hdir : fs.placeOf dir <+: place → fs.placeOf dir = place)
    (hlinks : ∀ next ∈ chain, fs.namesLink next = true → ¬ fs.placeOf next <+: place) :
    ∀ next ∈ chain, ¬ fs.placeOf next <+: place := by
  induction chain generalizing dir with
  | nil => simp
  | cons next chain ih =>
    obtain ⟨hcall, hrest⟩ := List.isChain_cons_cons.1 h
    obtain ⟨name, node, hstep⟩ := hfs.exists_steps hcall
    rw [List.forall_mem_cons] at hlinks ⊢
    have hnext : ¬ fs.placeOf next <+: place := by
      cases hlink : node.isLink with
      | true => exact hlinks.1 (hstep.namesLink_eq.trans hlink)
      | false =>
        rw [hstep.placeOf_eq hlink]
        intro hprefix
        have hsame := hdir ((List.prefix_append _ _).trans hprefix)
        have hlength := hprefix.length_le
        rw [hsame, List.length_append, List.length_singleton] at hlength
        omega
    exact ⟨hnext, ih hrest (fun hprefix => absurd hprefix hnext) hlinks.2⟩

end

/-- No link on a chain leads to a directory that the chain has been in before, or above one. -/
def NeverBack (fs : FileSystem) (chain : List Path) : Prop :=
  chain.Pairwise fun earlier next =>
    fs.namesLink next = true → ¬ fs.placeOf next <+: fs.placeOf earlier

theorem Proper.pairwise_of_neverBack (hfs : fs.Proper) (h : fs.TreeChain dir chain)
    (hback : fs.NeverBack (dir :: chain)) :
    (dir :: chain).Pairwise fun earlier next => ¬ fs.placeOf next <+: fs.placeOf earlier := by
  induction chain generalizing dir with
  | nil => simp
  | cons next chain ih =>
    obtain ⟨hdir, hlater⟩ := List.pairwise_cons.1 hback
    exact List.pairwise_cons.2 ⟨hfs.not_isPrefix_of_mem h (fun _ => rfl) hdir,
      ih (List.isChain_cons_cons.1 h).2 hlater⟩

theorem Proper.nodup_of_neverBack (hfs : fs.Proper) (h : fs.TreeChain dir chain)
    (hback : fs.NeverBack (dir :: chain)) : ((dir :: chain).map fs.placeOf).Nodup := by
  rw [List.Nodup, List.pairwise_map]
  refine (hfs.pairwise_of_neverBack h hback).imp fun hprefix heq => ?_
  exact hprefix (heq ▸ List.prefix_rfl)

/-! ## The directories of a file system -/

def directories (fs : FileSystem) : List Place :=
  [] :: ((fs.root.listing []).filter (·.2.isDir)).map (·.1)

theorem Proper.mem_directories_iff (hfs : fs.Proper) :
    place ∈ fs.directories ↔ ∃ es, fs.node? place = some (.dir es) := by
  have hmem (node : Node) : (place, node) ∈ fs.root.listing [] ↔
      place ≠ [] ∧ fs.node? place = some node := by
    simpa using hfs.mem_listing (S := []) rfl []
  simp only [directories, List.mem_cons, List.mem_map, List.mem_filter]
  constructor
  · rintro (rfl | ⟨⟨_, node⟩, ⟨hnode, hdir⟩, rfl⟩)
    · exact ⟨_, rfl⟩
    · obtain ⟨es, rfl⟩ := Node.isDir_eq_true_iff.1 hdir
      exact ⟨es, ((hmem _).1 hnode).2⟩
  · rintro ⟨es, hdir⟩
    by_cases hroot : place = []
    · exact .inl hroot
    · exact .inr ⟨(place, .dir es), ⟨(hmem _).2 ⟨hroot, hdir⟩, rfl⟩, rfl⟩

theorem isDir_of_treeChain (h : fs.TreeChain dir chain) (hdir : fs.isDir dir = true) :
    ∀ path ∈ dir :: chain, fs.isDir path = true := by
  induction chain generalizing dir with
  | nil => simpa using hdir
  | cons next chain ih =>
    obtain ⟨hcall, hrest⟩ := List.isChain_cons_cons.1 h
    obtain ⟨-, -, -, -, -, -, hnext⟩ := mem_treeCalls_iff.1 hcall
    exact List.forall_mem_cons.2 ⟨hdir, ih hrest hnext⟩

theorem Proper.places_subset_directories (hfs : fs.Proper) (h : fs.TreeChain dir chain)
    (hdir : fs.isDir dir = true) : (dir :: chain).map fs.placeOf ⊆ fs.directories := by
  intro place hplace
  obtain ⟨path, hpath, rfl⟩ := List.mem_map.1 hplace
  exact hfs.mem_directories_iff.2 (exists_dir_placeOf (isDir_of_treeChain h hdir path hpath))

/-- A list that has nothing more often than so many times is at most so many times as long as one
with all that it has. -/
theorem length_le_of_count_le {xs ys : List Place} {k : ℕ} (hsub : xs ⊆ ys)
    (hcount : ∀ x, xs.count x ≤ k) : xs.length ≤ k * ys.length := by
  induction ys generalizing xs with
  | nil => simp [List.eq_nil_of_subset_nil hsub]
  | cons y ys ih =>
    have hothers : xs.countP (¬ · == y) ≤ k * ys.length := by
      rw [List.countP_eq_length_filter]
      apply ih
      · intro x hx
        obtain ⟨hmem, hne⟩ := List.mem_filter.1 hx
        exact (List.mem_cons.1 (hsub hmem)).resolve_left (by simpa using hne)
      · exact fun x => (List.filter_sublist.count_le x).trans (hcount x)
    calc xs.length = xs.count y + xs.countP (¬ · == y) := xs.length_eq_countP_add_countP (· == y)
      _ ≤ k + k * ys.length := Nat.add_le_add (hcount y) hothers
      _ = k * (y :: ys).length := by rw [List.length_cons, Nat.mul_succ, Nat.add_comm]

/-! ## Chains that come back -/

/-- A chain goes on to every directory below where it is, as far as the system takes the paths. -/
theorem Proper.exists_treeChain (hfs : fs.Proper) {below : Place} (hdir : fs.isDir dir = true)
    (hthere : ∃ es, fs.node? (fs.placeOf dir ++ below) = some (.dir es))
    (hfits : ∀ way, way <+: below → Path.Fits (way.foldl Path.join dir)) :
    ∃ more, fs.TreeChain dir more ∧
      fs.placeOf dir ++ below ∈ (dir :: more).map fs.placeOf := by
  induction below generalizing dir with
  | nil => exact ⟨[], List.isChain_singleton _, by simp⟩
  | cons name rest ih =>
    obtain ⟨es', hbelow⟩ := hthere
    obtain ⟨es, hresolve⟩ := resolve_of_isDir hdir
    obtain ⟨⟨_, node⟩, he, _, heq, hnode⟩ :=
      hfs.exists_entry_of_below (node?_of_resolve hresolve) (List.cons_ne_nil name rest) hbelow
    obtain ⟨rfl, rfl⟩ := List.cons.inj heq
    have hlists := hfs.lists hresolve he
    rw [← List.singleton_append, ← List.append_assoc] at hbelow
    have hkind := isDir_of_prefix hnode hbelow (List.prefix_append _ _)
    obtain ⟨es₂, rfl⟩ := Node.isDir_eq_true_iff.1 hkind
    have hchild : fs.resolve (Path.join dir name) = .ok (fs.placeOf dir ++ [name], .dir es₂) :=
      hlists.leads.resolve_entry hlists.names_join hlists.isFileName.1 hnode rfl
        hlists.endsInSlash_join (hfits [name] (by simp))
    have hisDir : fs.isDir (Path.join dir name) = true := isDir_iff.2 ⟨_, _, hchild⟩
    have hcall : Path.join dir name ∈ treeCalls fs dir :=
      mem_treeCalls_iff.2 ⟨es, name, _, readDir_eq_ok_iff.2 ⟨_, hresolve⟩, he, rfl, hisDir⟩
    have hplace := placeOf_of_resolve hchild
    rw [← hplace] at hbelow
    obtain ⟨more, hmore, hmem⟩ := ih hisDir ⟨es', hbelow⟩ fun way hway =>
      hfits (name :: way) (List.cons_prefix_cons.2 ⟨rfl, hway⟩)
    rw [hplace, List.append_assoc] at hmem
    exact ⟨Path.join dir name :: more, List.isChain_cons_cons.2 ⟨hcall, hmore⟩,
      List.mem_cons_of_mem _ hmem⟩

/-- A chain that comes to a directory where it has been before, or above one, can go on to that. -/
theorem Proper.exists_repetition (hfs : fs.Proper) {front : List Path} {earlier : Path}
    {below : Place} (h : fs.TreeChain dir (front ++ [next])) (hdir : fs.isDir dir = true)
    (hearlier : earlier ∈ dir :: front) (hplace : fs.placeOf earlier = fs.placeOf next ++ below)
    (hfits : ∀ way, way <+: below → Path.Fits (way.foldl Path.join next)) :
    ∃ more, fs.TreeChain dir (front ++ next :: more) ∧
      ¬ ((dir :: (front ++ next :: more)).map fs.placeOf).Nodup := by
  have hdirs := isDir_of_treeChain h hdir
  have hthere := exists_dir_placeOf (hdirs earlier (by
    obtain rfl | hfront := List.mem_cons.1 hearlier
    · exact List.mem_cons_self
    · exact List.mem_cons_of_mem _ (List.mem_append_left _ hfront)))
  rw [hplace] at hthere
  obtain ⟨more, hmore, hmem⟩ := hfs.exists_treeChain (hdirs next (by simp)) hthere hfits
  refine ⟨more, ?_, fun hnodup => ?_⟩
  · have hfront : ((dir :: front) ++ [next]).IsChain fun path next => next ∈ treeCalls fs path := h
    simpa using hfront.append_overlap hmore (List.cons_ne_nil next [])
  · rw [← List.cons_append, List.map_append, List.nodup_append] at hnodup
    exact hnodup.2.2 _ (List.mem_map_of_mem hearlier) _ hmem hplace

end FileSystem

/-! ## The depth of tree -/

namespace Builtin
open FileSystem
variable {fs : FileSystem} {palette : Palette} {dir : Path} {indent : String} {depth : ℕ}

/-- More levels make no difference where the path has no room for as many. -/
theorem treeLevels_succ (hfs : fs.Proper) (hroom : Path.maxLength ≤ depth + dir.length) :
    treeLevels palette fs (depth + 2) indent dir =
      treeLevels palette fs (depth + 1) indent dir := by
  induction depth generalizing indent dir with
  | zero =>
    refine treeLevels_congr fun next hcall => ?_
    obtain ⟨name, node, hstep⟩ := hfs.exists_steps hcall
    have hlonger := hstep.length_lt
    have hshort := length_le_of_isDir hstep.isDir
    omega
  | succ depth ih =>
    refine treeLevels_congr fun next hcall => ih ?_
    obtain ⟨name, node, hstep⟩ := hfs.exists_steps hcall
    have hlonger := hstep.length_lt
    omega

/-- Tree shows as many levels as there are. -/
theorem treeLevels_eq_of_lt (hfs : fs.Proper) (hdepth : Path.maxLength < depth) :
    treeLevels palette fs depth indent dir =
      treeLevels palette fs (Path.maxLength + 1) indent dir := by
  induction depth, hdepth using Nat.le_induction with
  | base => rfl
  | succ depth hmore ih =>
    obtain ⟨levels, rfl⟩ := Nat.exists_eq_add_one_of_ne_zero (Nat.ne_zero_of_lt hmore)
    have hroom : Path.maxLength ≤ levels + dir.length := by omega
    rw [treeLevels_succ hfs hroom, ih]

/-- What tree shows of the last directory of a chain is part of what it shows of the first. -/
theorem treeLevels_isInfix_of_treeChain {chain : List Path} (h : fs.TreeChain dir chain)
    (indent : String) : ∃ inner, treeLevels palette fs depth inner (chain.getLastD dir) <:+:
      treeLevels palette fs (depth + chain.length) indent dir := by
  induction chain generalizing dir indent with
  | nil => exact ⟨indent, List.infix_rfl⟩
  | cons next chain ih =>
    obtain ⟨hcall, hrest⟩ := List.isChain_cons_cons.1 h
    obtain ⟨inner, hinfix⟩ := ih hrest (indent ++ treeIndent)
    rw [List.getLastD_cons]
    exact ⟨inner, hinfix.trans (treeLevels_isInfix hcall indent)⟩

/-! ## A directory with a link to itself -/

/-- A root directory that holds nothing but a link to itself. -/
def selfLink : FileSystem :=
  ⟨[("l", .link ".")]⟩

/-- The root directory by way of its link. -/
def loopPath (n : ℕ) : Path :=
  (List.replicate n ("l" : Name)).foldl Path.join "/"

theorem loopPath_succ (n : ℕ) : loopPath (n + 1) = Path.join (loopPath n) "l" := by
  rw [loopPath, List.replicate_succ', List.foldl_append]
  rfl

theorem isFileName_l : Path.IsFileName "l" := by
  decide

theorem names_loopPath (n : ℕ) : Path.names (loopPath n) = List.replicate n ("l" : Name) := by
  have hroot : Path.names "/" = [] := by decide
  rw [loopPath, FileSystem.names_foldl_join, hroot, List.nil_append]
  intro name hname
  rw [List.eq_of_mem_replicate hname]
  exact isFileName_l.2

/-- Every link makes the path longer by two characters at most. -/
theorem bounds_loopPath (n : ℕ) :
    0 ∉ loopPath n ∧ (loopPath n).length ≤ 2 * n + 1 := by
  induction n with
  | zero => exact ⟨by decide, by decide⟩
  | succ n ih =>
    have hname : 0 ∉ Utf8.encode "l" ∧ 0 ∉ Path.slash :: Utf8.encode "l" := by decide
    have hsize : (Utf8.encode "l").length = 1 := by decide
    rw [loopPath_succ, Path.join, if_neg (by decide)]
    split
    · exact ⟨hname.1, by omega⟩
    · rw [List.mem_append, List.length_append]
      exact ⟨not_or.2 ⟨ih.1, hname.1⟩, by omega⟩
    · rw [List.mem_append, List.length_append, List.length_cons]
      exact ⟨not_or.2 ⟨ih.1, hname.2⟩, by omega⟩

theorem fits_loopPath {n : ℕ} (h : n ≤ maxLinks + 1) : Path.Fits (loopPath n) := by
  obtain ⟨hnul, hsize⟩ := bounds_loopPath n
  have hmax : 2 * (maxLinks + 1) + 1 ≤ Path.maxLength := by decide
  exact ⟨hnul, by omega⟩

theorem proper_selfLink : selfLink.Proper :=
  FileSystem.proper_of_passes (by decide)

theorem directories_selfLink : selfLink.directories = [[]] := by
  have hlink : Node.listing [] selfLink.root = [((["l"] : Place), .link ".")] := by
    rw [FileSystem.root, selfLink, Node.listing_dir, Node.sortEntries, List.mergeSort_singleton]
    rfl
  rw [directories, hlink]
  rfl

theorem node?_selfLink : selfLink.node? [] = some (.dir [("l", .link ".")]) ∧
    selfLink.node? ([] ++ [("l" : Name)]) = some (.link ".") ∧ Path.names "." = (["."] : Place) :=
  ⟨rfl, rfl, by decide⟩

theorem leadsToDir_loopPath {n links : ℕ} (h : n ≤ links) :
    selfLink.LeadsToDir links [] (List.replicate n ("l" : Name)) [] := by
  induction n generalizing links with
  | zero => exact .nil rfl
  | succ n ih =>
    obtain ⟨links, rfl⟩ := Nat.exists_eq_add_of_le' (Nat.one_le_of_lt h)
    have hnext := ih (Nat.le_of_succ_le_succ h)
    refine .link isFileName_l.1 node?_selfLink.2.1 ?_
    rw [node?_selfLink.2.2]
    exact .dot hnext

theorem walk_loopPath {n links : ℕ} (h : links < n) (slash : Bool) :
    selfLink.walk .follow links [] (List.replicate n ("l" : Name)) slash = .error .linkLoop := by
  obtain ⟨hroot, hlink, htarget⟩ := node?_selfLink
  obtain ⟨n, rfl⟩ := Nat.exists_eq_add_of_le' (Nat.one_le_of_lt h)
  induction links generalizing n with
  | zero => exact walk_link hroot isFileName_l.1 rfl (.inr (.inl rfl))
  | succ links ih =>
    have hmore := Nat.lt_of_succ_lt_succ h
    obtain ⟨n, rfl⟩ := Nat.exists_eq_add_of_le' (Nat.one_le_of_lt hmore)
    have hrest : List.replicate (n + 1) ("l" : Name) ≠ [] := by simp
    rw [List.replicate_succ, walk_past_link hrest isFileName_l.1 hlink, htarget]
    exact (walk_past_dot hrest hroot).trans (ih n hmore)

theorem loopPath_ne_nil (n : ℕ) : loopPath n ≠ [] := by
  induction n with
  | zero => decide
  | succ n ih =>
    rw [loopPath_succ]
    exact Path.join_ne_nil ih (by decide)

theorem resolve_loopPath {n : ℕ} (h : n ≤ maxLinks) :
    selfLink.resolve (loopPath n) = .ok ([], selfLink.root) := by
  have hleads := leadsToDir_loopPath h
  rw [← names_loopPath] at hleads
  obtain ⟨es, hresolve⟩ :=
    hleads.resolve (loopPath_ne_nil n) (fits_loopPath (Nat.le_succ_of_le h))
  cases node?_of_resolve hresolve
  exact hresolve

theorem resolve_loopPath_of_lt :
    selfLink.resolve (loopPath (maxLinks + 1)) = .error (.os .linkLoop) := by
  obtain ⟨hnul, hlen⟩ := fits_loopPath (Nat.le_refl (maxLinks + 1))
  have hne := loopPath_ne_nil (maxLinks + 1)
  rw [FileSystem.resolve, locate, trace, names_loopPath, walk_loopPath (Nat.lt_add_one _)]
  simp only [List.contains_eq_mem, hnul, Nat.not_lt.2 hlen, List.isEmpty_iff, hne, decide_false,
    Bool.and_false, Bool.false_eq_true, if_false]
  rfl

theorem exists_treeChain_loopPath {n k : ℕ} (h : n + k ≤ maxLinks) :
    ∃ chain, chain.length = k ∧ selfLink.TreeChain (loopPath n) chain ∧
      ∀ path ∈ chain, selfLink.placeOf path = [] := by
  induction k generalizing n with
  | zero => exact ⟨[], rfl, List.isChain_singleton _, by simp⟩
  | succ k ih =>
    obtain ⟨chain, rfl, hchain, hplaces⟩ := ih (n := n + 1) (by omega)
    have hnext := resolve_loopPath (n := n + 1) (by omega)
    have hcall : loopPath (n + 1) ∈ treeCalls selfLink (loopPath n) := by
      have hread := readDir_eq_ok_iff.2 ⟨_, resolve_loopPath (n := n) (by omega)⟩
      exact mem_treeCalls_iff.2 ⟨_, "l", .link ".", hread, by simp [selfLink], loopPath_succ n,
        isDir_iff.2 ⟨_, _, hnext⟩⟩
    exact ⟨loopPath (n + 1) :: chain, rfl, List.isChain_cons_cons.2 ⟨hcall, hchain⟩,
      List.forall_mem_cons.2 ⟨placeOf_of_resolve hnext, hplaces⟩⟩

/-! ## All chains -/

/-- What is known of a chain of directories that tree goes through. -/
structure ChainBounds (fs : FileSystem) (dir : Path) (chain : List Path) : Prop where
  /-- The system follows no more links in a path. -/
  links_le : chain.countP fs.namesLink ≤ maxLinks
  /-- A directory is entered once, and once more for every link on the chain at most. -/
  visits_le : ∀ place, ((dir :: chain).map fs.placeOf).count place ≤ chain.countP fs.namesLink + 1
  /-- The chain is one of calls: tree shows the last directory within the first. -/
  shown : ∀ palette depth indent, ∃ inner,
    treeLevels palette fs depth inner (chain.getLastD dir) <:+:
      treeLevels palette fs (depth + chain.length) indent dir
  depth_le : (dir :: chain).length ≤ (chain.countP fs.namesLink + 1) * fs.directories.length
  bytes_le : dir.length + chain.length ≤ Path.maxLength
  /-- No directory is entered again if no link leads back to one or above it. -/
  once : fs.NeverBack (dir :: chain) → ((dir :: chain).map fs.placeOf).Nodup ∧
    (dir :: chain).length ≤ fs.directories.length
  /-- If the last step leads back to a directory or above it, that can be entered again, as long as
  the system takes the paths on the way. -/
  again : ∀ front next earlier below, chain = front ++ [next] → earlier ∈ dir :: front →
    fs.placeOf earlier = fs.placeOf next ++ below →
    (∀ way, way <+: below → Path.Fits (way.foldl Path.join next)) →
    ∃ more, fs.TreeChain dir (chain ++ more) ∧
      ¬ ((dir :: (chain ++ more)).map fs.placeOf).Nodup

/-- Tree goes through no more directories than the links and the paths allow that the system
follows, and then through each of them at most once if no link leads back. -/
theorem tree_bounded (hfs : fs.Proper) (hdir : fs.isDir dir = true) :
    (∀ chain, fs.TreeChain dir chain → ChainBounds fs dir chain) ∧
    ∀ palette indent depth, Path.maxLength < depth →
      treeLevels palette fs depth indent dir =
        treeLevels palette fs (Path.maxLength + 1) indent dir := by
  refine ⟨fun chain h => ?_, fun palette indent depth hdepth => treeLevels_eq_of_lt hfs hdepth⟩
  obtain ⟨links, hmax, hleft⟩ := exists_linksLeft hdir
  have hplaces := hfs.places_subset_directories h hdir
  have hvisits (place : Place) := (hfs.count_placeOf_le h place).1
  constructor
  case links_le => exact (hfs.countP_namesLink_le h hleft).trans hmax
  case visits_le => exact hvisits
  case shown => exact fun _ _ indent => treeLevels_isInfix_of_treeChain h indent
  case depth_le =>
    have hlength := length_le_of_count_le hplaces hvisits
    rwa [List.length_map] at hlength
  case bytes_le => exact hfs.length_le_of_treeChain h hdir
  case once =>
    intro hback
    have hnodup := hfs.nodup_of_neverBack h hback
    refine ⟨hnodup, ?_⟩
    have hlength := length_le_of_count_le hplaces (List.nodup_iff_count_le_one.1 hnodup)
    rwa [List.length_map, Nat.one_mul] at hlength
  case again =>
    rintro front next earlier below rfl hearlier hplace hfits
    simpa using hfs.exists_repetition h hdir hearlier hplace hfits

/-- A chain through a single directory with a link to itself is no longer than the links allow. -/
theorem tree_bounded_selfLink : selfLink.Proper ∧ selfLink.isDir "/" = true ∧
    ∀ chain, selfLink.TreeChain "/" chain → chain.length ≤ maxLinks := by
  have hdir : selfLink.isDir "/" = true :=
    isDir_iff.2 ⟨_, _, resolve_loopPath (n := 0) (Nat.zero_le _)⟩
  refine ⟨proper_selfLink, hdir, fun chain h => ?_⟩
  have hbounds := (tree_bounded proper_selfLink hdir).1 chain h
  have hlinks := hbounds.links_le
  have hdepth := hbounds.depth_le
  rw [directories_selfLink, List.length_singleton, List.length_cons] at hdepth
  omega

/-- By a link to itself a directory is entered again and again, until the system follows no more
links. -/
theorem directory_entered_again : selfLink.Proper ∧ selfLink.isDir "/" = true ∧
    selfLink.directories.length = 1 ∧
    (∃ chain, selfLink.TreeChain "/" chain ∧ chain.length = maxLinks ∧
      (∀ path ∈ ("/" : Path) :: chain, selfLink.placeOf path = []) ∧
      ¬ ((("/" : Path) :: chain).map selfLink.placeOf).Nodup) ∧
    selfLink.resolve (loopPath (maxLinks + 1)) = .error (.os .linkLoop) := by
  have hroot : selfLink.resolve "/" = .ok ([], selfLink.root) :=
    resolve_loopPath (n := 0) (Nat.zero_le _)
  obtain ⟨chain, hlength, hchain, hplaces⟩ :=
    exists_treeChain_loopPath (n := 0) (k := maxLinks) (Nat.le_of_eq (Nat.zero_add _))
  have hall : ∀ path ∈ ("/" : Path) :: chain, selfLink.placeOf path = [] :=
    List.forall_mem_cons.2 ⟨placeOf_of_resolve hroot, hplaces⟩
  refine ⟨proper_selfLink, isDir_iff.2 ⟨_, _, hroot⟩, by rw [directories_selfLink]; rfl,
    ⟨chain, hchain, hlength, hall, fun hnodup => ?_⟩, resolve_loopPath_of_lt⟩
  obtain ⟨next, others, rfl⟩ := List.exists_cons_of_length_eq_add_one hlength
  rw [List.map_cons, List.map_cons, hall _ List.mem_cons_self, hall next (by simp)] at hnodup
  simp at hnodup

end Builtin
end LineShell
