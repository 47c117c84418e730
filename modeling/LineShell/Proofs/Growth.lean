import LineShell.FileSystem.Access
import LineShell.Proofs.Sinks

/-!
# Files that are added and written

A file system grows when entries are added to it and files are written, while nothing is taken
away: every entry is still there and of the same kind, and what is new is no link. Every path then
still leads to the entry that it led to, be it there or not. So what a path is found to lead to is
found again, and what it was about to make is there once it has been made.
-/
namespace LineShell

namespace Node

/-- What a walk can tell of a node: what kind of node it is, and where it leads if it is a link. -/
def kind : Node → Node
  | .dir _ => .dir []
  | .file .. => .file [] false
  | node => node

theorem kind_face (node : Node) : node.face.kind = node.kind := by
  cases node <;> rfl

theorem isDir_kind (node : Node) : node.kind.isDir = node.isDir := by
  cases node <;> rfl

theorem isLink_kind (node : Node) : node.kind.isLink = node.isLink := by
  cases node <;> rfl

theorem isFile_kind (node : Node) : node.kind.isFile = node.isFile := by
  cases node <;> rfl

theorem kind_eq_link_iff {node : Node} {target : Path} :
    node.kind = .link target ↔ node = .link target := by
  cases node <;> simp [kind]

end Node

namespace Arrival

/-- The entry or directory that a walk ends at, how it got there, and whether a slash follows. -/
def site : Arrival → Place × LastStep × Bool
  | .found place _ last slash => (place, last, slash)
  | .missing dir name slash => (dir ++ [name], .name, slash)

/-- What a walk finds in the end. -/
def node? : Arrival → Option Node
  | .found _ node _ _ => some node
  | .missing .. => none

theorem endsAt_iff {a : Arrival} {place : Place} {slash : Bool} :
    a.EndsAt place slash ↔ a.site = (place, .name, slash) := by
  cases a with
  | missing dir name s => simp [EndsAt, site]
  | found p node last s => cases last <;> simp [EndsAt, site]

/-- A walk that ends where there is a node has found it. -/
theorem eq_found {a : Arrival} {place : Place} {last : LastStep} {slash : Bool} {node : Node}
    (hsite : a.site = (place, last, slash)) (hnode : a.node? = some node) :
    a = .found place node last slash := by
  cases a with
  | missing => contradiction
  | found p n l s =>
    obtain rfl : n = node := Option.some.inj hnode
    obtain ⟨rfl, rfl, rfl⟩ : p = place ∧ l = last ∧ s = slash := by simpa [site] using hsite
    rfl

end Arrival

namespace FileSystem
variable {fs fs' fs'' : FileSystem} {path : Path} {place q : Place} {lastLink : LastLink}

/-- What becomes of a file system to which files and directories are added and of which files are
written. -/
def Grows (fs fs' : FileSystem) : Prop :=
  ∀ q, (fs'.node? q).map Node.kind = (fs.node? q).map Node.kind ∨
    fs.node? q = none ∧ ∀ node, fs'.node? q = some node → node.isLink = false

namespace Grows

theorem refl (fs : FileSystem) : Grows fs fs :=
  fun _ => .inl rfl

theorem exists_kind (h : Grows fs fs') {node : Node} (hq : fs.node? q = some node) :
    ∃ node', fs'.node? q = some node' ∧ node'.kind = node.kind := by
  obtain hsame | ⟨hnone, -⟩ := h q
  · rwa [hq, Option.map_some, Option.map_eq_some_iff] at hsame
  · rw [hq] at hnone
    contradiction

theorem trans (h : Grows fs fs') (h' : Grows fs' fs'') : Grows fs fs'' := by
  intro q
  obtain hsame | ⟨hnone, hnew⟩ := h q
  · obtain hsame' | ⟨hnone', hnew'⟩ := h' q
    · exact .inl (hsame'.trans hsame)
    · rw [hnone', Option.map_none, eq_comm, Option.map_eq_none_iff] at hsame
      exact .inr ⟨hsame, hnew'⟩
  · refine .inr ⟨hnone, fun node hnode => ?_⟩
    obtain hsame' | ⟨-, hnew'⟩ := h' q
    · rw [hnode, Option.map_some, eq_comm, Option.map_eq_some_iff] at hsame'
      obtain ⟨node', hnode', hkind⟩ := hsame'
      rw [← Node.isLink_kind, ← hkind, Node.isLink_kind]
      exact hnew node' hnode'
    · exact hnew' node hnode

theorem exists_dir (h : Grows fs fs') {es : Entries} (hq : fs.node? q = some (.dir es)) :
    ∃ es', fs'.node? q = some (.dir es') := by
  obtain ⟨node, hnode, hkind⟩ := h.exists_kind hq
  have hdir := Node.isDir_kind node
  rw [hkind] at hdir
  obtain ⟨es', rfl⟩ := Node.isDir_eq_true_iff.1 hdir.symm
  exact ⟨es', hnode⟩

theorem link_eq (h : Grows fs fs') {target : Path} (hq : fs.node? q = some (.link target)) :
    fs'.node? q = some (.link target) := by
  obtain ⟨node, hnode, hkind⟩ := h.exists_kind hq
  rw [hnode, Node.kind_eq_link_iff.1 hkind]

/-- There are no new links. -/
theorem link_eq_of (h : Grows fs fs') {target : Path} (hq : fs'.node? q = some (.link target)) :
    fs.node? q = some (.link target) := by
  obtain hsame | ⟨-, hnew⟩ := h q
  · rw [hq, Option.map_some, eq_comm, Option.map_eq_some_iff] at hsame
    obtain ⟨node, hnode, hkind⟩ := hsame
    rw [hnode, Node.kind_eq_link_iff.1 hkind]
  · exact absurd (hnew _ hq) (by simp [Node.isLink])

end Grows

/-- What looks the same is of the same kind. -/
theorem map_kind_of_map_face {o o' : Option Node} (h : o'.map Node.face = o.map Node.face) :
    o'.map Node.kind = o.map Node.kind := by
  have hkind (o : Option Node) : o.map Node.kind = (o.map Node.face).map Node.kind := by
    simp [Function.comp_def, Node.kind_face]
  rw [hkind, h, ← hkind]

/-- A file system grows at one place if it grows there and looks the same elsewhere. -/
theorem SameBut.grows (h : SameBut place fs fs')
    (hplace : (fs'.node? place).map Node.kind = (fs.node? place).map Node.kind ∨
      fs.node? place = none ∧ ∀ node, fs'.node? place = some node → node.isLink = false) :
    Grows fs fs' := by
  intro q
  by_cases hq : q = place
  · exact hq ▸ hplace
  · exact .inl (map_kind_of_map_face (h q hq))

/-! ## Paths lead where they led before -/

/-- A walk finds what stands at its end. -/
theorem Walks.node?_eq {links : ℕ} {here : Place} {todo : List Name} {slash : Bool} {a : Arrival}
    (h : Walks fs lastLink links here todo slash a) : a.node? = fs.node? a.site.1 := by
  induction h with
  | stay h => exact h.symm
  | atDot h => exact h.symm
  | pastDot _ _ _ ih => exact ih
  | atDotDot _ hup => exact hup.symm
  | pastDotDot _ _ _ ih => exact ih
  | absent h _ hlookup => exact ((node?_append_singleton fs h _).trans hlookup).symm
  | last h _ hlookup _ => exact ((node?_append_singleton fs h _).trans hlookup).symm
  | down _ _ _ _ _ _ ih => exact ih
  | link _ _ _ _ _ ih => exact ih

/-- A walk ends where it ended before. -/
theorem Walks.of_grows {links : ℕ} {here : Place} {todo : List Name} {slash : Bool} {a : Arrival}
    (h : Walks fs lastLink links here todo slash a) (hgrows : Grows fs fs') :
    ∃ b, Walks fs' lastLink links here todo slash b ∧ b.site = a.site := by
  induction h with
  | stay h =>
    obtain ⟨node, hnode, -⟩ := hgrows.exists_kind h
    exact ⟨_, .stay hnode, rfl⟩
  | atDot h =>
    obtain ⟨es', h'⟩ := hgrows.exists_dir h
    exact ⟨_, .atDot h', rfl⟩
  | pastDot h hrest _ ih =>
    obtain ⟨es', h'⟩ := hgrows.exists_dir h
    obtain ⟨b, hb, hsite⟩ := ih
    exact ⟨b, .pastDot h' hrest hb, hsite⟩
  | atDotDot h hup =>
    obtain ⟨es', h'⟩ := hgrows.exists_dir h
    obtain ⟨parent, hup', -⟩ := hgrows.exists_kind hup
    exact ⟨_, .atDotDot h' hup', rfl⟩
  | pastDotDot h hrest _ ih =>
    obtain ⟨es', h'⟩ := hgrows.exists_dir h
    obtain ⟨b, hb, hsite⟩ := ih
    exact ⟨b, .pastDotDot h' hrest hb, hsite⟩
  | @absent links here name slash es h hname hlookup =>
    obtain ⟨es', h'⟩ := hgrows.exists_dir h
    cases hlookup' : es'.lookup name with
    | none => exact ⟨_, .absent h' hname hlookup', rfl⟩
    | some node =>
      -- the entry has been added, and is no link
      have hnone := (node?_append_singleton fs h name).trans hlookup
      have hnode := (node?_append_singleton fs' h' name).trans hlookup'
      have hlink : node.isLink = false := by
        cases hnode' : node.isLink with
        | false => rfl
        | true =>
          obtain ⟨target, rfl⟩ := Node.isLink_eq_true_iff.1 hnode'
          rw [hgrows.link_eq_of hnode] at hnone
          contradiction
      exact ⟨_, .last h' hname hlookup' (by simp [hlink]), rfl⟩
  | @last links here name slash es node h hname hlookup hlink =>
    obtain ⟨es', h'⟩ := hgrows.exists_dir h
    obtain ⟨node', hnode', hkind⟩ :=
      hgrows.exists_kind ((node?_append_singleton fs h name).trans hlookup)
    rw [node?_append_singleton fs' h'] at hnode'
    rw [← Node.isLink_kind, ← hkind, Node.isLink_kind] at hlink
    exact ⟨_, .last h' hname hnode' hlink, rfl⟩
  | @down links here name rest slash es node a h hname hlookup hlink hrest _ ih =>
    obtain ⟨es', h'⟩ := hgrows.exists_dir h
    obtain ⟨node', hnode', hkind⟩ :=
      hgrows.exists_kind ((node?_append_singleton fs h name).trans hlookup)
    rw [node?_append_singleton fs' h'] at hnode'
    rw [← Node.isLink_kind, ← hkind, Node.isLink_kind] at hlink
    obtain ⟨b, hb, hsite⟩ := ih
    exact ⟨b, .down h' hname hnode' hlink hrest hb, hsite⟩
  | link h hname hlookup hfollows _ ih =>
    obtain ⟨es', h'⟩ := hgrows.exists_dir h
    have hlink := hgrows.link_eq ((node?_append_singleton fs h _).trans hlookup)
    rw [node?_append_singleton fs' h'] at hlink
    obtain ⟨b, hb, hsite⟩ := ih
    exact ⟨b, .link h' hname hlink hfollows hb, hsite⟩

theorem node?_of_locate {a : Arrival} (h : fs.locate lastLink path = .ok a) :
    a.node? = fs.node? a.site.1 :=
  (walks_of_walk_eq (walk_of_locate h)).node?_eq

/-- A path leads to the entry that it led to, and to what stands there now. -/
theorem Grows.locate (hgrows : Grows fs fs') {a : Arrival} (h : fs.locate lastLink path = .ok a) :
    ∃ b, fs'.locate lastLink path = .ok b ∧ b.site = a.site ∧ b.node? = fs'.node? a.site.1 := by
  obtain ⟨b, hb, hsite⟩ := (walks_of_walk_eq (walk_of_locate h)).of_grows hgrows
  exact ⟨b, locate_of_walk h hb.walk_eq, hsite, hsite ▸ hb.node?_eq⟩

/-- A link that need not be followed makes no difference to a walk that ends at something else. -/
theorem Walks.follow {links : ℕ} {here : Place} {todo : List Name} {slash : Bool} {a : Arrival}
    (h : Walks fs lastLink links here todo slash a)
    (ha : ∀ node, a.node? = some node → node.isLink = false) :
    Walks fs .follow links here todo slash a := by
  induction h with
  | stay h => exact .stay h
  | atDot h => exact .atDot h
  | pastDot h hrest _ ih => exact .pastDot h hrest (ih ha)
  | atDotDot h hup => exact .atDotDot h hup
  | pastDotDot h hrest _ ih => exact .pastDotDot h hrest (ih ha)
  | absent h hname hlookup => exact .absent h hname hlookup
  | last h hname hlookup _ => exact .last h hname hlookup (by simp [ha _ rfl])
  | down h hname hlookup hlink hrest _ ih => exact .down h hname hlookup hlink hrest (ih ha)
  | link h hname hlookup _ _ ih => exact .link h hname hlookup (.inr (.inl rfl)) (ih ha)

theorem locate_follow {a : Arrival} (h : fs.locate lastLink path = .ok a)
    (ha : ∀ node, a.node? = some node → node.isLink = false) : fs.locate .follow path = .ok a :=
  locate_of_walk h ((walks_of_walk_eq (walk_of_locate h)).follow ha).walk_eq

/-! ## What a path is found to lead to -/

/-- What a path leads to, as a look at it tells. A slash after it asks for a directory. -/
theorem resolve_eq_ok_iff {place : Place} {node : Node} :
    fs.resolve path = .ok (place, node) ↔ ∃ last slash,
      fs.locate .follow path = .ok (.found place node last slash) ∧
        (slash = true → node.isDir = true) := by
  rw [resolve]
  cases fs.locate .follow path with
  | error e => simp [bind, Except.bind]
  | ok a =>
    cases a with
    | missing dir name slash => simp [bind, Except.bind, ofArrival]
    | found p n last slash =>
      simp only [bind, Except.bind, ofArrival, Except.ok.injEq, Arrival.found.injEq]
      constructor
      · intro h
        split_ifs at h with hslash
        obtain ⟨rfl, rfl⟩ := Prod.mk.inj (Except.ok.inj h)
        exact ⟨last, slash, ⟨rfl, rfl, rfl, rfl⟩, by simpa using hslash⟩
      · rintro ⟨_, _, ⟨rfl, rfl, rfl, rfl⟩, hslash⟩
        rw [if_neg (by simpa using hslash)]

theorem node?_of_resolve {place : Place} {node : Node} (h : fs.resolve path = .ok (place, node)) :
    fs.node? place = some node := by
  obtain ⟨last, slash, hlocate, -⟩ := resolve_eq_ok_iff.1 h
  exact (node?_of_locate hlocate).symm

theorem pathExists_iff : fs.pathExists path = true ↔
    ∃ place node, fs.resolve path = .ok (place, node) := by
  rw [pathExists]
  rcases fs.resolve path with e | ⟨p, n⟩ <;> simp [Except.toOption]

/-- Nothing is found where a walk ends at a missing entry. -/
theorem resolve_of_missing {dir : Place} {name : Name} {slash : Bool}
    (h : fs.locate .follow path = .ok (.missing dir name slash)) :
    fs.resolve path = .error (.os .noEntry) := by
  rw [resolve, h]
  rfl

theorem resolve_of_locate_error {e : IoError} (h : fs.locate .follow path = .error e) :
    fs.resolve path = .error e := by
  rw [resolve, h]
  rfl

theorem pathExists_of_resolve_error {e : IoError} (h : fs.resolve path = .error e) :
    fs.pathExists path = false := by
  rw [pathExists, h]
  rfl

theorem isDir_of_resolve_error {e : IoError} (h : fs.resolve path = .error e) :
    fs.isDir path = false := by
  rw [isDir, h]

theorem isDir_iff : fs.isDir path = true ↔ ∃ place es, fs.resolve path = .ok (place, .dir es) := by
  rw [isDir]
  rcases fs.resolve path with e | ⟨p, n⟩ <;> simp [Node.isDir_eq_true_iff]

theorem exists_locate_of_isDir (h : fs.isDir path = true) : ∃ place es last slash,
    fs.locate .follow path = .ok (.found place (.dir es) last slash) := by
  obtain ⟨place, es, hresolve⟩ := isDir_iff.1 h
  obtain ⟨last, slash, hlocate, -⟩ := resolve_eq_ok_iff.1 hresolve
  exact ⟨place, es, last, slash, hlocate⟩

/-- The path without links that a path has. -/
theorem canonical_eq_ok_iff {full : Path} :
    fs.canonical path = .ok full ↔ ∃ place node last slash,
      fs.trace .follow path = .ok (.found place node last slash) ∧
        (slash = true → node.isDir = true) ∧ place.path = full := by
  rw [canonical]
  cases fs.trace .follow path with
  | error e => simp [bind, Except.bind]
  | ok a =>
    cases a with
    | missing dir name slash => simp [bind, Except.bind, ofArrival]
    | found place node last slash =>
      cases slash <;> cases hdir : node.isDir <;>
        simp [bind, Except.bind, ofArrival, hdir, pure, Except.pure]

end FileSystem
end LineShell
