import LineShell.Input.Completion
import LineShell.Proofs.TreeChains
import Mathlib.Data.List.Sort
import Mathlib.Data.String.Basic

/-!
# What a word is completed to

The candidates for a word are the names of the directory that the word goes up to, those that begin
with the rest of it, in the order of their bytes and each of them once. A slash is put behind the
name of a directory, and of a link to one, if the system follows the path of the entry. Whoever
types on without a slash keeps those of the candidates that still begin with the word.
-/
namespace LineShell

/-! ## The order of texts -/

namespace Utf8

theorem toNat_lt (c : Char) : c.val.toNat < 0x110000 := by
  obtain hlow | ⟨-, hhigh⟩ := c.valid
  · exact Nat.lt_trans hlow (by decide)
  · exact hhigh

theorem byte_lt_iff {m n : ℕ} (hm : m < 256) (hn : n < 256) :
    UInt8.ofNat m < UInt8.ofNat n ↔ m < n := by
  rw [UInt8.lt_iff_toNat_lt, toNat_byte hm, toNat_byte hn]

theorem byte_eq_iff {m n : ℕ} (hm : m < 256) (hn : n < 256) :
    UInt8.ofNat m = UInt8.ofNat n ↔ m = n := by
  rw [← UInt8.toNat_inj, toNat_byte hm, toNat_byte hn]

/-- The bytes of two characters tell which of them has the lesser code. -/
theorem encodeChar_append_lt {c d : Char} (h : c < d) (x y : Bytes) :
    String.utf8EncodeChar c ++ x < String.utf8EncodeChar d ++ y := by
  have hlt : c.val.toNat < d.val.toNat := h
  have hd := toNat_lt d
  unfold String.utf8EncodeChar
  generalize c.val.toNat = m at *
  generalize d.val.toNat = n at *
  -- the bytes after the first are digits to the base 64
  have hdigits (k : ℕ) : k / 4096 = k / 64 / 64 ∧ k / 262144 = k / 64 / 64 / 64 := by omega
  simp only [hdigits]
  split_ifs <;>
    simp (disch := omega) only [List.cons_append, List.nil_append, List.cons_lt_cons_iff,
      byte_lt_iff, byte_eq_iff] <;>
    omega

/-- Texts are ordered like their bytes. -/
theorem encode_lt_encode {a b : String} (h : a < b) : encode a < encode b := by
  rw [String.lt_iff_toList_lt] at h
  rw [encode_eq, encode_eq]
  generalize a.toList = s at h
  generalize b.toList = t at h
  induction h with
  | @nil d t =>
    obtain ⟨b, bytes, hbytes⟩ := List.exists_cons_of_ne_nil (String.utf8EncodeChar_ne_nil (c := d))
    rw [List.flatMap_cons, hbytes]
    exact List.nil_lt_cons _ _
  | rel hlt => exact encodeChar_append_lt hlt _ _
  | cons _ ih => exact List.append_left_lt ih

end Utf8

namespace Input

/-! ## A word and its last slash -/

/-- The parts of a word: what follows its last slash, and what goes up to that. -/
structure LastSlash (word dirPart start : List Char) : Prop where
  append : dirPart ++ start = word
  notMem : '/' ∉ start
  ends : ∀ c ∈ dirPart.getLast?, c = '/'

theorem exists_lastSlash (word : List Char) : ∃ dirPart start, LastSlash word dirPart start := by
  refine ⟨Text.dropEndWhile (· != '/') word, (word.reverse.takeWhile (· != '/')).reverse,
    Text.dropEndWhile_append_takeEnd (· != '/') word, ?_, ?_⟩
  · intro hmem
    have hne := List.mem_takeWhile_imp (List.mem_reverse.1 hmem)
    simp at hne
  · intro c hc
    simpa using Text.getLast?_dropEndWhile hc

theorem forall_bne_of_notMem {c : Char} {s : List Char} (h : c ∉ s) :
    ∀ d ∈ s, (d != c) = true := by
  intro d hd
  rw [bne_iff_ne]
  rintro rfl
  exact h hd

theorem LastSlash.splitLastSlash_eq {word dirPart start : List Char}
    (h : LastSlash word dirPart start) : splitLastSlash word = (dirPart, start) := by
  have hends : ∀ c ∈ dirPart.getLast?, (c != '/') = false := by
    simpa using h.ends
  have hfront : Text.dropEndWhile (· != '/') word = dirPart := by
    rw [← h.append, Text.dropEndWhile_append_of_pos (forall_bne_of_notMem h.notMem),
      Text.dropEndWhile_eq_self hends]
  have hname : (word.reverse.takeWhile (· != '/')).reverse = start := by
    have hall := Text.dropEndWhile_append_takeEnd (· != '/') word
    rw [hfront] at hall
    exact List.append_cancel_left (hall.trans h.append.symm)
  rw [splitLastSlash, hname, ← h.append, List.length_append, Nat.add_sub_cancel, List.take_left]

/-- More of a word without a slash belongs to what follows the last one. -/
theorem LastSlash.append_right {word dirPart start more : List Char}
    (h : LastSlash word dirPart start) (hmore : '/' ∉ more) :
    LastSlash (word ++ more) dirPart (start ++ more) := by
  refine ⟨?_, ?_, h.ends⟩
  · rw [← List.append_assoc, h.append]
  · rw [List.mem_append, not_or]
    exact ⟨h.notMem, hmore⟩

/-! ## Candidates of a listing -/

variable {dirPart start more : List Char} {entries entries' : List Listed}

/-- What a word is completed to by a name, and by a slash behind it. -/
def completion (dirPart : List Char) (name : String) (isDir : Bool) : String :=
  String.ofList dirPart ++ name ++ if isDir then "/" else ""

theorem candidate?_eq_some_iff {entry : Listed} {c : String} :
    candidate? dirPart start entry = some c ↔ ∃ name, Utf8.decode? entry.name = some name ∧
      start <+: name.toList ∧ c = completion dirPart name entry.isDir := by
  simp only [candidate?, Option.bind_eq_bind, Option.bind_eq_some_iff, ← List.isPrefixOf_iff_prefix]
  refine exists_congr fun name => and_congr_right fun _ => ?_
  by_cases hbegins : start.isPrefixOf name.toList = true
  · rw [if_pos hbegins, and_iff_right hbegins]
    exact Option.some_inj.trans eq_comm
  · simp [hbegins]

/-- The candidates are what the entries with text for a name complete the word to. -/
theorem mem_candidates_iff {c : String} : c ∈ candidates dirPart start entries ↔
    ∃ e ∈ entries, ∃ name, Utf8.decode? e.name = some name ∧ start <+: name.toList ∧
      c = completion dirPart name e.isDir := by
  simp only [candidates, List.mem_mergeSort, List.mem_filterMap, candidate?_eq_some_iff]

/-- What a directory lists has names that differ, and none with a slash. -/
structure Distinct (entries : List Listed) : Prop where
  nodup : (entries.map (·.name)).Nodup
  noSlash : ∀ e ∈ entries, ∀ name, Utf8.decode? e.name = some name → '/' ∉ name.toList

/-- The slash behind a name does not make it the name of another entry. -/
theorem completion_inj {name name' : String} {isDir isDir' : Bool} (hname : '/' ∉ name.toList)
    (hname' : '/' ∉ name'.toList)
    (h : completion dirPart name isDir = completion dirPart name' isDir') : name = name' := by
  have hcut (name : String) (isDir : Bool) (hname : '/' ∉ name.toList) :
      ((completion dirPart name isDir).toList.drop dirPart.length).takeWhile (· != '/') =
        name.toList := by
    simp only [completion, String.toList_append, String.toList_ofList, List.append_assoc,
      List.drop_left]
    rw [List.takeWhile_append_of_pos (forall_bne_of_notMem hname)]
    cases isDir <;> simp
  rw [← String.toList_inj, ← hcut name isDir hname, h, hcut name' isDir' hname']

/-- The order of the candidates, which is that of their bytes as well. -/
def inOrder (a b : String) : Bool :=
  decide (a ≤ b)

theorem pairwise_inOrder (xs : List String) :
    (xs.mergeSort inOrder).Pairwise fun a b => inOrder a b = true :=
  List.pairwise_mergeSort (by simpa [inOrder] using fun _ _ _ => le_trans)
    (by simpa [inOrder] using fun a b => le_total a b) xs

/-- Sorting gives one list, whatever the order was before. -/
theorem mergeSort_eq_of_perm {xs ys : List String} (h : xs.Perm ys)
    (hys : ys.Pairwise fun a b => inOrder a b = true) : xs.mergeSort inOrder = ys := by
  refine ((List.mergeSort_perm xs inOrder).trans h).eq_of_pairwise ?_ (pairwise_inOrder xs) hys
  intro a b _ _ hab hba
  exact le_antisymm (of_decide_eq_true hab) (of_decide_eq_true hba)

theorem candidates_eq (dirPart start : List Char) (entries : List Listed) :
    candidates dirPart start entries =
      (entries.filterMap (candidate? dirPart start)).mergeSort inOrder :=
  rfl

theorem pairwise_candidates (h : Distinct entries) (dirPart start : List Char) :
    (candidates dirPart start entries).Pairwise fun a b => Utf8.encode a < Utf8.encode b := by
  have hnodup : (entries.filterMap (candidate? dirPart start)).Nodup := by
    rw [List.Nodup, List.pairwise_filterMap]
    refine (List.pairwise_map.1 h.nodup).imp_of_mem fun {e e'} he he' hne => ?_
    rintro c hc _ hc' rfl
    obtain ⟨name, hname, -, rfl⟩ := candidate?_eq_some_iff.1 hc
    obtain ⟨name', hname', -, heq⟩ := candidate?_eq_some_iff.1 hc'
    obtain rfl := completion_inj (h.noSlash e he _ hname) (h.noSlash e' he' _ hname') heq
    exact hne ((Utf8.encode_of_decode? hname).symm.trans (Utf8.encode_of_decode? hname'))
  rw [candidates_eq]
  have hdistinct := (List.mergeSort_perm _ inOrder).nodup_iff.2 hnodup
  refine ((pairwise_inOrder _).and hdistinct).imp fun hle => ?_
  exact Utf8.encode_lt_encode (lt_of_le_of_ne (of_decide_eq_true hle.1) hle.2)

/-- The order in which a directory yields its entries does not matter. -/
theorem candidates_eq_of_perm (h : entries.Perm entries') (dirPart start : List Char) :
    candidates dirPart start entries = candidates dirPart start entries' := by
  refine mergeSort_eq_of_perm ?_ (pairwise_inOrder _)
  exact (h.filterMap _).trans (List.mergeSort_perm _ inOrder).symm

/-- A candidate begins with a longer word if the name does. -/
theorem isPrefix_completion_iff {name : String} {isDir : Bool} (hstart : '/' ∉ start) :
    dirPart ++ start <+: (completion dirPart name isDir).toList ↔ start <+: name.toList := by
  simp only [completion, String.toList_append, String.toList_ofList, List.append_assoc,
    List.prefix_append_right_inj]
  cases isDir with
  | false => simp
  | true =>
    have hslash : "/".toList = ['/'] := rfl
    rw [if_pos rfl, hslash, List.prefix_concat_iff]
    refine or_iff_right fun heq => hstart ?_
    simp [heq]

theorem candidate?_append (hstart : '/' ∉ start) (hmore : '/' ∉ more) (dirPart : List Char)
    (entry : Listed) : candidate? dirPart (start ++ more) entry =
      (candidate? dirPart start entry).filter fun c =>
        (dirPart ++ (start ++ more)).isPrefixOf c.toList := by
  have hlonger : '/' ∉ start ++ more := by simp [hstart, hmore]
  apply Option.ext
  intro c
  rw [Option.filter_eq_some_iff, candidate?_eq_some_iff, candidate?_eq_some_iff,
    List.isPrefixOf_iff_prefix]
  constructor
  · rintro ⟨name, hname, hbegins, rfl⟩
    exact ⟨⟨name, hname, (List.prefix_append _ _).trans hbegins, rfl⟩,
      (isPrefix_completion_iff hlonger).2 hbegins⟩
  · rintro ⟨⟨name, hname, -, rfl⟩, hbegins⟩
    exact ⟨name, hname, (isPrefix_completion_iff hlonger).1 hbegins, rfl⟩

/-- Whoever types on keeps the candidates that still begin with the word. -/
theorem candidates_append (hstart : '/' ∉ start) (hmore : '/' ∉ more) (dirPart : List Char)
    (entries : List Listed) : candidates dirPart (start ++ more) entries =
      (candidates dirPart start entries).filter fun c =>
        (dirPart ++ (start ++ more)).isPrefixOf c.toList := by
  have hfilter : entries.filterMap (candidate? dirPart (start ++ more)) =
      (entries.filterMap (candidate? dirPart start)).filter fun c =>
        (dirPart ++ (start ++ more)).isPrefixOf c.toList := by
    rw [List.filter_filterMap]
    exact List.filterMap_congr fun entry _ => candidate?_append hstart hmore dirPart entry
  rw [candidates_eq, hfilter]
  refine mergeSort_eq_of_perm ?_ ((pairwise_inOrder _).filter _)
  exact ((List.mergeSort_perm _ inOrder).symm).filter _

/-- The candidates of a listing, whatever order it comes in. -/
structure CandidatesOf (dirPart start : List Char) (entries : List Listed) (found : List String) :
    Prop where
  sorted : found.Pairwise fun a b => Utf8.encode a < Utf8.encode b
  /-- An entry whose name is no text is left out. -/
  mem_iff : ∀ c, c ∈ found ↔ ∃ e ∈ entries, ∃ name, Utf8.decode? e.name = some name ∧
    start <+: name.toList ∧ c = completion dirPart name e.isDir
  any_order : ∀ entries', entries'.Perm entries → candidates dirPart start entries' = found

theorem candidatesOf_candidates (h : Distinct entries) (dirPart start : List Char) :
    CandidatesOf dirPart start entries (candidates dirPart start entries) where
  sorted := pairwise_candidates h dirPart start
  mem_iff _ := mem_candidates_iff
  any_order _ hperm := candidates_eq_of_perm hperm dirPart start

end Input

namespace FileSystem
variable {fs : FileSystem} {cwd path : Path} {dir : Place} {name : Name} {node : Node}

/-! ## Entries that lead to a directory -/

/-- The system follows a path: it takes it, and there are not too many links on the way. -/
def Followable (fs : FileSystem) (path : Path) : Prop :=
  Path.Fits path ∧ fs.locate .follow path ≠ .error (.os .linkLoop)

/-- A directory, or a link that leads to one from where it stands, however many links there are on
the way. -/
def LeadsToOne (fs : FileSystem) (dir : Place) (node : Node) : Prop :=
  node.isDir = true ∨ ∃ target links place, node = .link target ∧
    fs.LeadsToDir links (if Path.isAbsolute target then [] else dir) (Path.names target) place

namespace Lists
variable (h : fs.Lists cwd dir name node)
include h

theorem isDir_join_of_dir (hfits : Path.Fits (Path.join cwd name)) (hdir : node.isDir = true) :
    fs.isDir (Path.join cwd name) = true := by
  obtain ⟨es, rfl⟩ := Node.isDir_eq_true_iff.1 hdir
  have hne := Path.join_ne_nil h.ne_nil h.isFileName.2.isAbsolute_eq_false
  have hkeep : (Node.dir es).isLink = true → LastLink.follow ≠ .follow := by simp [Node.isLink]
  have hlocate := locate_of_walks hfits.1 hne hfits.2 (walks_of_walk_eq (h.walk_join hkeep))
  exact isDir_iff.2 ⟨_, es, h.resolve_join rfl hlocate⟩

theorem isDir_join_of_link {target : Path} {links : ℕ} {place : Place}
    (hpath : fs.Followable (Path.join cwd name)) (hnode : node = .link target)
    (hleads : fs.LeadsToDir links (if Path.isAbsolute target then [] else dir)
      (Path.names target) place) : fs.isDir (Path.join cwd name) = true := by
  subst hnode
  obtain ⟨es, hdir⟩ := h.exists_dir
  have hlookup := h.there
  rw [node?_append_singleton fs hdir] at hlookup
  obtain ⟨left, hlocate⟩ := h.leads.exists_locate h.names_join (List.cons_ne_nil name []) hpath.1
  have hfollow := hlocate .follow
  rw [walk_link hdir h.isFileName.1 hlookup (.inr (.inl rfl))] at hfollow
  cases left with
  | zero => exact absurd hfollow hpath.2
  | succ left =>
    dsimp only at hfollow
    rw [List.append_nil] at hfollow
    generalize (Path.endsInSlash (Path.join cwd name) ||
      (List.isEmpty ([] : List Name) && Path.endsInSlash target)) = slash at hfollow
    have hends : fs.walk .follow left (if Path.isAbsolute target then [] else dir)
        (Path.names target) slash ≠ .error .linkLoop := by
      intro hloop
      rw [hloop] at hfollow
      exact hpath.2 hfollow
    obtain ⟨es', hwalks⟩ := hleads
    obtain ⟨last, slash', hwalks⟩ := hwalks slash
    have hwalk := (hwalks.of_le (Nat.le_max_right left links)).walk_eq
    rw [walk_of_le (Nat.le_max_left left links) hends] at hwalk
    rw [hwalk] at hfollow
    exact isDir_iff.2 ⟨place, es', resolve_eq_ok_iff.2 ⟨last, slash', hfollow, fun _ => rfl⟩⟩

/-- Whether the path of an entry leads to a directory. -/
theorem isDir_join_iff : fs.isDir (Path.join cwd name) = true ↔
    fs.Followable (Path.join cwd name) ∧ fs.LeadsToOne dir node := by
  constructor
  · intro hisdir
    obtain ⟨es, last, slash, hlocate⟩ := exists_locate_placeOf hisdir
    refine ⟨⟨⟨noNul_of_locate hlocate, length_le_of_isDir hisdir⟩, ?_⟩, ?_⟩
    · rw [hlocate]
      simp
    · have hleads := LeadsToDir.of_walks (walks_of_walk_eq (walk_of_locate hlocate)) rfl
      rw [h.names_join] at hleads
      obtain ⟨links, place, hfront, hback⟩ := hleads.exists_front
      obtain rfl := h.leads.place_eq hfront
      obtain hdir | ⟨links', target, -, hlink, htarget⟩ := hback.entry_cases h.isFileName.1
      · obtain ⟨es', hthere⟩ := hdir.exists_dir
        obtain rfl := Option.some.inj (h.there.symm.trans hthere)
        exact .inl rfl
      · obtain rfl := Option.some.inj (h.there.symm.trans hlink)
        rw [List.append_nil] at htarget
        exact .inr ⟨target, links', _, rfl, htarget⟩
  · rintro ⟨hpath, hdir | ⟨target, links, place, hlink, hleads⟩⟩
    · exact h.isDir_join_of_dir hpath.1 hdir
    · exact h.isDir_join_of_link hpath hlink hleads

end Lists
end FileSystem

namespace Input
open Dispatch (withEmptyDir)
open FileRequest (slashes encode_slashes names_slashes length_slashes isAbsolute_slashes)
variable {fs : FileSystem} {cwd : Path} {word dirPart start more : List Char} {es : Entries}

/-! ## Completing a word -/

/-- The directory that a word goes up to with its last slash. -/
def dirOf (cwd : Path) (dirPart : List Char) : Path :=
  Path.join cwd (String.ofList dirPart)

theorem completePath_of_readDir (h : LastSlash word dirPart start)
    (hread : fs.readDir (dirOf cwd dirPart) = .ok es) : completePath fs cwd word =
      candidates dirPart start
        (es.map fun e => ⟨e.1, fs.isDir (Path.join (dirOf cwd dirPart) e.1)⟩) := by
  have hlisted : listed fs (dirOf cwd dirPart) = .ok
      (es.map fun e => ⟨e.1, fs.isDir (Path.join (dirOf cwd dirPart) e.1)⟩) := by
    rw [listed, hread]
    rfl
  have hdir : Path.resolve cwd (String.ofList dirPart) = dirOf cwd dirPart := rfl
  unfold completePath
  rw [h.splitLastSlash_eq]
  simp only [hdir, hlisted]

theorem completePath_of_readDir_error (h : LastSlash word dirPart start) {e : IoError}
    (hread : fs.readDir (dirOf cwd dirPart) = .error e) : completePath fs cwd word = [] := by
  have hlisted : listed fs (dirOf cwd dirPart) = .error e := by
    rw [listed, hread]
    rfl
  have hdir : Path.resolve cwd (String.ofList dirPart) = dirOf cwd dirPart := rfl
  unfold completePath
  rw [h.splitLastSlash_eq]
  simp only [hdir, hlisted]

theorem distinct_listed (hfs : fs.Proper) {dir : Place} (hdir : fs.node? dir = some (.dir es))
    (isDir : Name → Bool) : Distinct (es.map fun e => (⟨e.1, isDir e.1⟩ : Listed)) := by
  constructor
  · have hnames := hfs.nodup hdir
    rw [List.map_map]
    exact hnames
  · intro entry hentry name hname hslash
    obtain ⟨e, he, rfl⟩ := List.mem_map.1 hentry
    have hbyte : Path.slash ∈ Utf8.encode name := Utf8.mem_encode_of_mem (by decide) hslash
    rw [Utf8.encode_of_decode? hname] at hbyte
    exact (hfs.isFileName hdir e.1 (List.mem_map_of_mem he)).2.2 hbyte

structure Completes (fs : FileSystem) (cwd : Path) (word dirPart start : List Char)
    (found : List String) : Prop where
  parts : LastSlash word dirPart start
  sorted : found.Pairwise fun a b => Utf8.encode a < Utf8.encode b
  unreadable : ∀ e, fs.readDir (dirOf cwd dirPart) = .error e → found = []
  mem_iff : ∀ dir es, fs.resolve (dirOf cwd dirPart) = .ok (dir, .dir es) → ∀ c, c ∈ found ↔
    ∃ name node isDir, (Utf8.encode name, node) ∈ es ∧ start <+: name.toList ∧
      c = completion dirPart name isDir ∧
      (isDir = true ↔
        fs.Followable (Path.join (dirOf cwd dirPart) name) ∧ fs.LeadsToOne dir node)
  begins : ∀ c ∈ found, word <+: c.toList
  narrows : ∀ more, '/' ∉ more →
    completePath fs cwd (word ++ more) = found.filter fun c => (word ++ more).isPrefixOf c.toList

theorem mem_completePath_iff (hfs : fs.Proper) (h : LastSlash word dirPart start) {dir : Place}
    (hdir : fs.resolve (dirOf cwd dirPart) = .ok (dir, .dir es)) {c : String} :
    c ∈ completePath fs cwd word ↔ ∃ name node isDir, (Utf8.encode name, node) ∈ es ∧
      start <+: name.toList ∧ c = completion dirPart name isDir ∧
      (isDir = true ↔
        fs.Followable (Path.join (dirOf cwd dirPart) name) ∧ fs.LeadsToOne dir node) := by
  have hread := FileSystem.readDir_eq_ok_iff.2 ⟨dir, hdir⟩
  have hslash {name : Name} {node : Node} (he : (name, node) ∈ es) :
      fs.isDir (Path.join (dirOf cwd dirPart) name) = true ↔
        fs.Followable (Path.join (dirOf cwd dirPart) name) ∧ fs.LeadsToOne dir node :=
    (hfs.lists hdir he).isDir_join_iff
  rw [completePath_of_readDir h hread, mem_candidates_iff]
  constructor
  · rintro ⟨entry, hentry, name, hname, hbegins, rfl⟩
    obtain ⟨⟨bytes, node⟩, he, rfl⟩ := List.mem_map.1 hentry
    obtain rfl := Utf8.encode_of_decode? hname
    exact ⟨name, node, _, he, hbegins, rfl, hslash he⟩
  · rintro ⟨name, node, isDir, he, hbegins, rfl, hisDir⟩
    have hsame : isDir = fs.isDir (Path.join (dirOf cwd dirPart) name) :=
      Bool.eq_iff_iff.2 (hisDir.trans (hslash he).symm)
    exact ⟨_, List.mem_map.2 ⟨_, he, rfl⟩, name, Utf8.decode?_encode name, hbegins, by rw [hsame]⟩

theorem pairwise_completePath (hfs : fs.Proper) (cwd : Path) (word : List Char) :
    (completePath fs cwd word).Pairwise fun a b => Utf8.encode a < Utf8.encode b := by
  obtain ⟨dirPart, start, h⟩ := exists_lastSlash word
  cases hread : fs.readDir (dirOf cwd dirPart) with
  | error e =>
    rw [completePath_of_readDir_error h hread]
    exact .nil
  | ok es =>
    obtain ⟨dir, hdir⟩ := FileSystem.readDir_eq_ok_iff.1 hread
    rw [completePath_of_readDir h hread]
    exact pairwise_candidates (distinct_listed hfs (FileSystem.node?_of_resolve hdir) fun name =>
      fs.isDir (Path.join (dirOf cwd dirPart) name)) dirPart start

theorem isPrefix_of_mem_completePath (h : LastSlash word dirPart start) {c : String}
    (hc : c ∈ completePath fs cwd word) : word <+: c.toList := by
  cases hread : fs.readDir (dirOf cwd dirPart) with
  | error e =>
    rw [completePath_of_readDir_error h hread] at hc
    contradiction
  | ok es =>
    rw [completePath_of_readDir h hread, mem_candidates_iff] at hc
    obtain ⟨entry, -, name, -, hbegins, rfl⟩ := hc
    rw [← h.append]
    exact (isPrefix_completion_iff h.notMem).2 hbegins

theorem completePath_append (h : LastSlash word dirPart start) (hmore : '/' ∉ more) :
    completePath fs cwd (word ++ more) =
      (completePath fs cwd word).filter fun c => (word ++ more).isPrefixOf c.toList := by
  have hlonger := h.append_right hmore
  cases hread : fs.readDir (dirOf cwd dirPart) with
  | error e =>
    rw [completePath_of_readDir_error hlonger hread, completePath_of_readDir_error h hread]
    rfl
  | ok es =>
    rw [completePath_of_readDir hlonger hread, completePath_of_readDir h hread,
      candidates_append h.notMem hmore, hlonger.append]

theorem completes_completePath (hfs : fs.Proper) (cwd : Path) (h : LastSlash word dirPart start) :
    Completes fs cwd word dirPart start (completePath fs cwd word) where
  parts := h
  sorted := pairwise_completePath hfs cwd word
  unreadable _ hread := completePath_of_readDir_error h hread
  mem_iff _ _ hdir _ := mem_completePath_iff hfs h hdir
  begins _ hc := isPrefix_of_mem_completePath h hc
  narrows _ hmore := completePath_append h hmore

/-- A word is completed to the entries of the directory that it goes up to, those whose names are
text and begin with the rest of it, and it is narrowed down by what is typed on. -/
theorem completePath_exact (hfs : fs.Proper) (cwd : Path) (word : List Char) :
    (∃ dirPart start, Completes fs cwd word dirPart start (completePath fs cwd word)) ∧
      ∀ (dirPart start : List Char) (entries : List Listed), Distinct entries →
        CandidatesOf dirPart start entries (candidates dirPart start entries) := by
  obtain ⟨dirPart, start, h⟩ := exists_lastSlash word
  exact ⟨⟨dirPart, start, completes_completePath hfs cwd h⟩,
    fun dirPart start _ hentries => candidatesOf_candidates hentries dirPart start⟩

/-! ## Names beside each other -/

/-- Files, directories and a link to one, in no order, and a name that is no text. -/
def named : Entries :=
  [("note", .file [] false), ("main", .file [] false), ([0x6E, 0xFF], .file [] false),
    ("nb", .link "node"), ("node", .dir []), ("né", .file [] false)]

def withNames : FileSystem :=
  ⟨[("src", .dir named)]⟩

theorem proper_withNames : withNames.Proper :=
  FileSystem.proper_of_passes (by decide)

theorem resolve_named : withNames.resolve (dirOf "/" "src/".toList) = .ok (["src"], .dir named) :=
  FileSystem.resolve_of_entryNames (by decide) (by decide) rfl (by decide) (by decide)

theorem isDir_named {name : Name} {node : Node} (he : (name, node) ∈ named) :
    withNames.isDir (Path.join (dirOf "/" "src/".toList) name) = !node.isFile := by
  have hnode : withNames.isDir (Path.join (dirOf "/" "src/".toList) name) = true →
      node.isFile = false := by
    intro hisDir
    obtain ⟨-, hdir | ⟨target, -, -, rfl, -⟩⟩ :=
      (proper_withNames.lists resolve_named he).isDir_join_iff.1 hisDir
    · cases node <;> first | rfl | contradiction
    · rfl
  cases hfile : node.isFile with
  | true => exact Bool.eq_false_iff.2 fun hisDir => by simp [hnode hisDir] at hfile
  | false =>
    apply FileSystem.isDir_iff.2
    simp only [named, List.mem_cons, Prod.mk.injEq, List.not_mem_nil, or_false] at he
    obtain ⟨rfl, rfl⟩ | ⟨rfl, rfl⟩ | ⟨rfl, rfl⟩ | ⟨rfl, rfl⟩ | ⟨rfl, rfl⟩ | ⟨rfl, rfl⟩ := he
    all_goals try contradiction
    · -- the link leads to the directory beside it
      have hnames : Path.names (Path.join (dirOf "/" "src/".toList) "nb") =
          (["src", "nb"] : Place) := by decide
      have hlink : withNames.LeadsToDir FileSystem.maxLinks [] ["src", "nb"] ["src", "node"] :=
        .down (by decide) (.link (by decide) rfl (.down (by decide) (.nil rfl)))
      rw [← hnames] at hlink
      obtain ⟨es, hresolve⟩ := hlink.resolve (by decide) (by decide)
      exact ⟨_, _, hresolve⟩
    · exact ⟨["src", "node"], [], FileSystem.resolve_of_entryNames (by decide) (by decide) rfl
        (by decide) (by decide)⟩

theorem completePath_named : completePath withNames "/" "src/n".toList =
    ["src/nb/", "src/node/", "src/note", "src/né"] := by
  have hparts : LastSlash "src/n".toList "src/".toList "n".toList :=
    ⟨by decide, by decide, by simp⟩
  have hlisted : named.map (fun e => Listed.mk e.1
      (withNames.isDir (Path.join (dirOf "/" "src/".toList) e.1))) =
      named.map fun e => Listed.mk e.1 (!e.2.isFile) :=
    List.map_congr_left fun e he => by rw [isDir_named he]
  have hbad : Utf8.decode? [0x6E, 0xFF] = none := by decide
  have hfound : (named.map fun e => Listed.mk e.1 (!e.2.isFile)).filterMap
      (candidate? "src/".toList "n".toList) =
        ["src/note", "src/nb/", "src/node/", "src/né"] := by
    simp [named, candidate?, Utf8.decode?_encode, hbad, Node.isFile]
  rw [completePath_of_readDir hparts (FileSystem.readDir_eq_ok_iff.2 ⟨_, resolve_named⟩), hlisted,
    candidates_eq, hfound]
  exact mergeSort_eq_of_perm (by decide) (by decide)

/-- The link and the directory get their slashes, a name that begins with another letter is left out
and so is one that is no text, and the order is that of the bytes. A further letter leaves two. -/
theorem completePath_exact_named :
    (∃ dirPart start, Completes withNames "/" "src/n".toList dirPart start
        ["src/nb/", "src/node/", "src/note", "src/né"]) ∧
      completePath withNames "/" "src/no".toList = ["src/node/", "src/note"] := by
  have hexact := (completePath_exact proper_withNames "/" "src/n".toList).1
  rw [completePath_named] at hexact
  obtain ⟨dirPart, start, h⟩ := hexact
  refine ⟨⟨dirPart, start, h⟩, ?_⟩
  exact (h.narrows ['o'] (by decide)).trans (by decide)

/-! ## A path that is too long -/

/-- The only entry of a directory is the only candidate. -/
theorem completePath_of_single {name : String} {node : Node} {isDir : Bool}
    (h : LastSlash word dirPart start)
    (hread : fs.readDir (dirOf cwd dirPart) = .ok [(Utf8.encode name, node)])
    (hname : start <+: name.toList)
    (hisDir : fs.isDir (Path.join (dirOf cwd dirPart) name) = isDir) :
    completePath fs cwd word = [completion dirPart name isDir] := by
  have hone : candidate? dirPart start ⟨Utf8.encode name, isDir⟩ =
      some (completion dirPart name isDir) :=
    candidate?_eq_some_iff.2 ⟨name, Utf8.decode?_encode name, hname, rfl⟩
  rw [completePath_of_readDir h hread, List.map_singleton, hisDir, candidates_eq,
    List.filterMap_cons_some hone, List.filterMap_nil]
  exact List.mergeSort_singleton _

/-- A path of slashes leads to the root as long as it is not too long. -/
theorem resolve_slashes {n : ℕ} (hn : n < Path.maxLength) (fs : FileSystem) :
    fs.resolve (slashes (n + 1)) = .ok ([], fs.root) := by
  have hnul : 0 ∉ Utf8.encode (slashes (n + 1)) := by
    rw [encode_slashes]
    exact fun hmem => absurd (List.eq_of_mem_replicate hmem) (by decide)
  have hlen : (Utf8.encode (slashes (n + 1))).length ≤ Path.maxLength := by
    rw [length_slashes]
    exact hn
  have hlocate : fs.locate .follow (slashes (n + 1)) =
      .ok (.found [] fs.root .root (Path.endsInSlash (slashes (n + 1)))) := by
    refine FileSystem.locate_of_walks hnul
      (Path.ne_nil_of_isAbsolute (isAbsolute_slashes n)) hlen ?_
    rw [names_slashes]
    exact .stay rfl
  exact FileSystem.resolve_eq_ok_iff.2 ⟨_, _, hlocate, fun _ => rfl⟩

/-- A directory gets no slash if its path is too long for the system, though it is read from one
that the system takes. -/
theorem completePath_long_path :
    withEmptyDir.readDir (slashes 4095) = .ok [("d", .dir [])] ∧
      completePath withEmptyDir "/" (slashes 4095).toList = [slashes 4095 ++ "d"] := by
  have habs : Path.isAbsolute (slashes 4095) = true := isAbsolute_slashes 4094
  have hparts : LastSlash (slashes 4095).toList (slashes 4095).toList [] := by
    refine ⟨List.append_nil _, List.not_mem_nil, fun c hc => ?_⟩
    have hmem := List.mem_of_getLast? hc
    rw [slashes, String.toList_ofList] at hmem
    exact List.eq_of_mem_replicate hmem
  have hdir : dirOf "/" (slashes 4095).toList = slashes 4095 := by
    rw [dirOf, String.ofList_toList, Path.join_of_isAbsolute habs]
  have hread : withEmptyDir.readDir (slashes 4095) = .ok [("d", .dir [])] :=
    FileSystem.readDir_eq_ok_iff.2 ⟨[], resolve_slashes (by decide) _⟩
  have hlong : withEmptyDir.isDir (Path.join (slashes 4095) "d") = false := by
    have hsegment : Path.IsSegment "d" := by decide
    have hlt := Path.length_lt_length_join hsegment (slashes 4095)
    rw [length_slashes] at hlt
    exact Bool.eq_false_iff.2 fun hisDir =>
      Nat.lt_irrefl _ (hlt.trans_le (FileSystem.length_le_of_isDir hisDir))
  refine ⟨hread, ?_⟩
  rw [← hdir] at hread hlong
  rw [completePath_of_single hparts hread List.nil_prefix hlong]
  simp [completion]

end Input
end LineShell
