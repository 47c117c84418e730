import LineShell.FileSystem.Change
import LineShell.Proofs.Walk

/-!
# What is put at a place

Putting a file at a place that holds no directory changes nothing else, up to the entries of the
directories on the way. A path that can be opened for writing leads to such a place, or to a device,
where nothing is put.
-/
namespace LineShell

namespace Node

theorem lookup_alterEntry {name : Name} {f : Option Node → Option Node} {es : Entries}
    (h : (f (es.lookup name)).isSome ∨ es.lookup name = none) :
    (alterEntry name f es).lookup name = f (es.lookup name) := by
  induction es with
  | nil => cases hf : f none <;> simp [alterEntry, hf]
  | cons e es ih =>
    obtain ⟨n, node⟩ := e
    rw [alterEntry]
    by_cases hn : n = name
    · subst hn
      rw [if_pos rfl]
      simp only [List.lookup_cons_self, reduceCtorEq, or_false] at h ⊢
      obtain ⟨node', hf⟩ := Option.isSome_iff_exists.1 h
      simp [hf]
    · have hne : (name == n) = false := beq_false_of_ne (Ne.symm hn)
      simp only [List.lookup_cons, hne] at h ⊢
      rw [if_neg hn, List.lookup_cons, hne]
      exact ih h

/-- A node without what lies below it. -/
def face : Node → Node
  | .dir _ => .dir []
  | node => node

@[simp] theorem face_dir (es : Entries) : face (.dir es) = .dir [] := rfl

theorem face_eq_dir {node : Node} (h : face node = .dir []) : ∃ es, node = .dir es := by
  cases node <;> simp_all [face]

@[simp] theorem get?_nil (node : Node) : get? [] node = some node := rfl

@[simp] theorem get?_cons_dir (name : Name) (rest : Place) (es : Entries) :
    get? (name :: rest) (.dir es) = (es.lookup name).bind (get? rest) := rfl

theorem get?_cons_of_isDir_eq_false {node : Node} (h : node.isDir = false) (name : Name)
    (rest : Place) : get? (name :: rest) node = none := by
  cases node <;> simp_all [get?, isDir]

theorem get?_append (p q : Place) (node : Node) :
    get? (p ++ q) node = (get? p node).bind (get? q) := by
  induction p generalizing node with
  | nil => rfl
  | cons name rest ih =>
    cases node with
    | dir es =>
      rw [List.cons_append, get?_cons_dir, get?_cons_dir, Option.bind_assoc]
      exact congrArg _ (funext ih)
    | _ => simp [get?]

@[simp] theorem alter_cons_dir (name : Name) (rest : Place) (f : Option Node → Option Node)
    (es : Entries) : alter (name :: rest) f (some (.dir es)) =
      some (.dir (alterEntry name (alter rest f) es)) := rfl

/-- Where something stands, something stands after a change below it, and where nothing stands there
is nothing to change. -/
theorem isSome_alter_cons (name : Name) (rest : Place) (f : Option Node → Option Node)
    (o : Option Node) : (alter (name :: rest) f o).isSome = o.isSome := by
  rcases o with _ | _ | _ | _ | _ <;> rfl

/-- What stands below a place that was changed. What goes away leaves nothing of its name behind if
no other entry has that name. -/
theorem get?_alter_append {dir : Place} {name : Name} {node : Node} {es : Entries}
    {f : Option Node → Option Node} (h : get? dir node = some (.dir es))
    (hf : (f (es.lookup name)).isSome ∨ (es.map (·.1)).Nodup) (below : Place) :
    (alter (dir ++ [name]) f (some node)).bind (get? (dir ++ [name] ++ below)) =
      (f (es.lookup name)).bind (get? below) := by
  induction dir generalizing node with
  | nil =>
    obtain rfl : node = .dir es := Option.some.inj h
    have hlookup : (alterEntry name f es).lookup name = f (es.lookup name) := by
      rcases hf with hf | hf
      · exact lookup_alterEntry (.inl hf)
      · exact lookup_alterEntry_self name f es hf
    rw [List.nil_append, alter_cons_dir, Option.bind_some, List.singleton_append, get?_cons_dir]
    exact congrArg (·.bind (get? below)) hlookup
  | cons n rest ih =>
    cases node with
    | dir es₀ =>
      rw [get?_cons_dir, Option.bind_eq_some_iff] at h
      obtain ⟨child, hchild, hrest⟩ := h
      have hsome : (alter (rest ++ [name]) f (es₀.lookup n)).isSome = true := by
        obtain ⟨m, ms, hms⟩ := List.exists_cons_of_ne_nil
          (List.append_ne_nil_of_right_ne_nil rest (List.cons_ne_nil name []))
        rw [hms, isSome_alter_cons, hchild, Option.isSome_some]
      rw [List.cons_append, alter_cons_dir, Option.bind_some, List.cons_append, get?_cons_dir,
        lookup_alterEntry (.inl hsome), hchild]
      exact ih hrest
    | _ => simp [get?] at h

/-- A change at a place changes nothing elsewhere but entries of directories. -/
theorem face_get?_alter_of_not_prefix {place q : Place} (hq : ¬ place <+: q)
    (f : Option Node → Option Node) (node : Node) :
    ((alter place f (some node)).bind (get? q)).map face = (get? q node).map face := by
  induction place generalizing q node with
  | nil => exact absurd q.nil_prefix hq
  | cons p ps ih =>
    cases node with
    | dir es =>
      rw [alter_cons_dir, Option.bind_some]
      cases q with
      | nil => rfl
      | cons x xs =>
        rw [get?_cons_dir, get?_cons_dir]
        by_cases hx : x = p
        · subst hx
          rw [List.cons_prefix_cons, not_and] at hq
          have hxs : ¬ ps <+: xs := hq rfl
          obtain ⟨p', ps', rfl⟩ : ∃ p' ps', ps = p' :: ps' :=
            List.exists_cons_of_ne_nil fun hnil => hxs (hnil ▸ xs.nil_prefix)
          cases hchild : es.lookup x with
          | none =>
            rw [lookup_alterEntry (.inr hchild), hchild]
            rfl
          | some child =>
            have hsome := isSome_alter_cons p' ps' f (es.lookup x)
            rw [hchild, Option.isSome_some] at hsome
            rw [lookup_alterEntry (.inl (hchild ▸ hsome)), hchild]
            exact ih hxs child
        · rw [lookup_alterEntry_of_ne hx]
    | _ => rfl

/-- A node with nothing below it. -/
def Childless (node : Node) : Prop :=
  ∀ name rest, node.get? (name :: rest) = none

theorem childless_of_isDir_eq_false {node : Node} (h : node.isDir = false) : node.Childless :=
  get?_cons_of_isDir_eq_false h

theorem childless_empty : (Node.dir []).Childless := by
  intro name rest
  rw [get?_cons_dir, List.lookup_nil, Option.bind_none]

end Node

/-- Whether an entry is where a walk ends, be it there or not; `slash` tells whether a slash comes
after its name. -/
def Arrival.EndsAt (place : Place) (slash : Bool) : Arrival → Prop
  | .found p _ .name s => p = place ∧ s = slash
  | .missing dir name s => dir ++ [name] = place ∧ s = slash
  | _ => False

namespace FileSystem

theorem node?_append_singleton (fs : FileSystem) {dir : Place} {es : Entries}
    (h : fs.node? dir = some (.dir es)) (name : Name) :
    fs.node? (dir ++ [name]) = es.lookup name := by
  rw [node?] at h ⊢
  rw [Node.get?_append, h, Option.bind_some, Node.get?_singleton]

theorem node?_append (fs : FileSystem) (place below : Place) :
    fs.node? (place ++ below) = (fs.node? place).bind (Node.get? below) :=
  Node.get?_append place below fs.root

/-- A change anywhere but at the root leaves the root a directory. -/
theorem root_alter (fs : FileSystem) {place : Place} (h : place ≠ [])
    (f : Option Node → Option Node) :
    some (fs.alter place f).root = Node.alter place f (some fs.root) := by
  obtain ⟨name, rest, rfl⟩ := List.exists_cons_of_ne_nil h
  rfl

section
variable {fs : FileSystem} {dir place q : Place} {name : Name} {es : Entries}

theorem entry_ne_nil (dir : Place) (name : Name) : dir ++ [name] ≠ [] :=
  List.append_ne_nil_of_right_ne_nil dir (List.cons_ne_nil name [])

/-- What stands below an entry that was changed. -/
theorem node?_alter_append (h : fs.node? dir = some (.dir es)) {f : Option Node → Option Node}
    (hf : (f (es.lookup name)).isSome ∨ (es.map (·.1)).Nodup) (below : Place) :
    (fs.alter (dir ++ [name]) f).node? (dir ++ [name] ++ below) =
      (f (es.lookup name)).bind (Node.get? below) := by
  rw [node?, ← Option.bind_some (f := Node.get? (dir ++ [name] ++ below)),
    root_alter fs (entry_ne_nil dir name)]
  exact Node.get?_alter_append h hf below

/-- A change at a place changes nothing elsewhere but entries of directories. -/
theorem face_node?_alter (hplace : place ≠ []) (hq : ¬ place <+: q)
    (f : Option Node → Option Node) :
    ((fs.alter place f).node? q).map Node.face = (fs.node? q).map Node.face := by
  rw [node?, ← Option.bind_some (f := Node.get? q), root_alter fs hplace]
  exact Node.face_get?_alter_of_not_prefix hq f fs.root

/-- What is put into a directory is found there, with all that is below it. -/
theorem node?_put_append (h : fs.node? dir = some (.dir es)) (node : Node) (below : Place) :
    (fs.put (dir ++ [name]) node).node? (dir ++ [name] ++ below) = node.get? below :=
  node?_alter_append h (.inl rfl) below

/-- What is put into a directory is found there. -/
theorem node?_put_self (h : fs.node? dir = some (.dir es)) (name : Name) (node : Node) :
    (fs.put (dir ++ [name]) node).node? (dir ++ [name]) = some node := by
  have hself : (fs.put (dir ++ [name]) node).node? (dir ++ [name] ++ []) = some node :=
    node?_put_append h node []
  rwa [List.append_nil] at hself

end

/-- Two file systems that look the same everywhere but at one place. -/
def SameBut (place : Place) (fs fs' : FileSystem) : Prop :=
  ∀ q, q ≠ place → (fs'.node? q).map Node.face = (fs.node? q).map Node.face

/-- Putting a node with nothing below it where nothing is below changes nothing elsewhere but
entries of directories. -/
theorem sameBut_put {fs : FileSystem} {dir : Place} {name : Name} {es : Entries} {node : Node}
    (h : fs.node? dir = some (.dir es)) (hnode : node.Childless)
    (hold : ∀ old, fs.node? (dir ++ [name]) = some old → old.Childless) :
    SameBut (dir ++ [name]) fs (fs.put (dir ++ [name]) node) := by
  intro q hq
  by_cases hbelow : dir ++ [name] <+: q
  · obtain ⟨below, rfl⟩ := hbelow
    have hne : below ≠ [] := by
      rintro rfl
      exact hq (List.append_nil _)
    obtain ⟨x, xs, rfl⟩ := List.exists_cons_of_ne_nil hne
    have hnone : fs.node? (dir ++ [name] ++ x :: xs) = none := by
      rw [node?_append, Option.bind_eq_none_iff]
      exact fun old ho => hold old ho x xs
    rw [node?_put_append h, hnode, hnone]
  · exact face_node?_alter (entry_ne_nil dir name) hbelow _

/-- What a walk that follows links tells of the entry that it arrives at. -/
theorem Walks.tells {fs : FileSystem} {links : ℕ} {here : Place} {todo : List Name} {slash : Bool}
    {a : Arrival} (h : Walks fs .follow links here todo slash a) :
    (∀ place node s, a = .found place node .name s →
      node.isLink = false ∧ ∃ dir name es, place = dir ++ [name] ∧
        fs.node? dir = some (.dir es) ∧ fs.node? place = some node) ∧
      ∀ dir name s, a = .missing dir name s →
        ∃ es, fs.node? dir = some (.dir es) ∧ fs.node? (dir ++ [name]) = none := by
  induction h with
  | stay => simp
  | atDot => simp
  | pastDot _ _ _ ih => exact ih
  | atDotDot => simp
  | pastDotDot _ _ _ ih => exact ih
  | @absent links here name slash es h _ hlookup =>
    refine ⟨by simp, fun dir n s he => ?_⟩
    cases he
    exact ⟨es, h, (node?_append_singleton fs h name).trans hlookup⟩
  | @last links here name slash es node h _ hlookup hlink =>
    refine ⟨fun place n s he => ?_, by simp⟩
    cases he
    have hfollow : LastLink.Follows .follow [] slash := .inr (.inl rfl)
    refine ⟨?_, here, name, es, rfl, h, (node?_append_singleton fs h name).trans hlookup⟩
    by_contra hl
    exact hlink (by simpa using hl) hfollow
  | down _ _ _ _ _ _ ih => exact ih
  | link _ _ _ _ _ ih => exact ih

/-- A walk goes on from directories only. -/
theorem Walks.exists_dir {fs : FileSystem} {lastLink : LastLink} {links : ℕ} {here : Place}
    {todo : List Name} {slash : Bool} {a : Arrival}
    (h : Walks fs lastLink links here todo slash a) (hne : todo ≠ []) :
    ∃ es, fs.node? here = some (.dir es) := by
  cases h with
  | stay => contradiction
  | _ => exact ⟨_, ‹_›⟩

/-- A place that looks as it did is a directory still. -/
theorem exists_dir_of_face_eq {fs fs' : FileSystem} {q : Place} {es : Entries}
    (hface : (fs'.node? q).map Node.face = (fs.node? q).map Node.face)
    (hq : fs.node? q = some (.dir es)) : ∃ es', fs'.node? q = some (.dir es') := by
  rw [hq, Option.map_some, Node.face_dir, Option.map_eq_some_iff] at hface
  obtain ⟨node, hnode, hdir⟩ := hface
  obtain ⟨es', rfl⟩ := Node.face_eq_dir hdir
  exact ⟨es', hnode⟩

/-- Directories are still there in a file system that is the same but at the place of a file. -/
theorem SameBut.exists_dir {fs fs' : FileSystem} {place q : Place} {es : Entries}
    (h : SameBut place fs fs') (hplace : ∀ old, fs.node? place = some old → old.isDir = false)
    (hq : fs.node? q = some (.dir es)) : ∃ es', fs'.node? q = some (.dir es') := by
  have hne : q ≠ place := by
    rintro rfl
    simpa [Node.isDir] using hplace _ hq
  exact exists_dir_of_face_eq (h q hne) hq

theorem walk_of_locate {fs : FileSystem} {lastLink : LastLink} {path : Path} {a : Arrival}
    (h : fs.locate lastLink path = .ok a) :
    fs.walk lastLink maxLinks [] (Path.names path) (Path.endsInSlash path) = .ok a := by
  rw [locate, trace] at h
  split_ifs at h
  split at h
  · next hwalk => rw [hwalk, Except.ok.inj h]
  · contradiction

/-- A path that is not empty leads, whatever its length, to where the steps from the root lead. -/
theorem trace_of_walks {fs : FileSystem} {lastLink : LastLink} {path : Path} {a : Arrival}
    (hnul : 0 ∉ path) (hne : path ≠ [])
    (h : Walks fs lastLink maxLinks [] (Path.names path) (Path.endsInSlash path) a) :
    fs.trace lastLink path = .ok a := by
  simp [trace, hnul, hne, h.walk_eq]

/-- A path that is neither empty nor too long leads to where the steps from the root lead. -/
theorem locate_of_walks {fs : FileSystem} {lastLink : LastLink} {path : Path} {a : Arrival}
    (hnul : 0 ∉ path) (hne : path ≠ []) (hlen : path.length ≤ Path.maxLength)
    (h : Walks fs lastLink maxLinks [] (Path.names path) (Path.endsInSlash path) a) :
    fs.locate lastLink path = .ok a := by
  have hlong : ¬ Path.maxLength < path.length := Nat.not_lt.2 hlen
  simp [locate, hlong, trace_of_walks hnul hne h]

/-- Where a path leads in another file system, or with links taken in another way, when it leads
somewhere in one. -/
theorem locate_of_walk {fs fs' : FileSystem} {lastLink lastLink' : LastLink} {path : Path}
    {a b : Arrival} (h : fs.locate lastLink path = .ok a)
    (hwalk : fs'.walk lastLink' maxLinks [] (Path.names path) (Path.endsInSlash path) = .ok b) :
    fs'.locate lastLink' path = .ok b := by
  rw [locate, trace] at h ⊢
  split_ifs at h ⊢
  rw [hwalk]

/-- A path that leads to a file, or to where one can be made, with the place of the file, what it
holds, and whether it is executable. -/
inductive Opens (fs : FileSystem) (path : Path) : Place → Bytes → Bool → Prop
  | old {place : Place} {content : Bytes} {x : Bool} :
      fs.locate .follow path = .ok (.found place (.file content x) .name false) →
      Opens fs path place content x
  | new {dir : Place} {name : Name} :
      fs.locate .follow path = .ok (.missing dir name false) →
      Opens fs path (dir ++ [name]) [] false

def leadsToDevice (fs : FileSystem) (path : Path) : Bool :=
  match fs.locate .follow path with
  | .ok (.found _ .device .name false) => true
  | _ => false

theorem leadsToDevice_iff {fs : FileSystem} {path : Path} :
    fs.leadsToDevice path = true ↔
      ∃ place, fs.locate .follow path = .ok (.found place .device .name false) := by
  rw [leadsToDevice]
  split
  · next place hlocate => simp [hlocate]
  · next hne => simpa using hne

def CanOpen (fs : FileSystem) (path : Path) : Prop :=
  (fs.update path id).1 = .ok ()

instance (fs : FileSystem) (path : Path) : Decidable (fs.CanOpen path) :=
  inferInstanceAs (Decidable ((fs.update path id).1 = .ok ()))

/-- What a file holds; a path that leads to no file holds nothing. -/
def content (fs : FileSystem) (path : Path) : Bytes :=
  (fs.read path).toOption.getD []

/-- What can be opened is a file, be it there or not, or a device. -/
theorem opens_or_leadsToDevice {fs : FileSystem} {path : Path} (h : fs.CanOpen path) :
    (∃ place content x, Opens fs path place content x) ∨ fs.leadsToDevice path = true := by
  rw [leadsToDevice_iff]
  rw [CanOpen, update] at h
  cases hlocate : fs.locate .follow path with
  | error e => simp [hlocate] at h
  | ok a =>
    rw [hlocate] at h
    cases a with
    | missing dir name slash =>
      cases slash with
      | true => simp at h
      | false => exact .inl ⟨_, _, _, .new hlocate⟩
    | found place node last slash =>
      simp only at h
      split_ifs at h with hslash
      simp only [Bool.or_eq_true, bne_iff_ne, ne_eq, not_or, not_not, Bool.not_eq_true] at hslash
      obtain ⟨rfl, rfl⟩ := hslash
      cases node with
      | file content x => exact .inl ⟨_, _, _, .old hlocate⟩
      | link target =>
        have hlink := ((walks_of_walk_eq (walk_of_locate hlocate)).tells.1 _ _ _ rfl).1
        simp [Node.isLink] at hlink
      | device => exact .inr ⟨place, rfl⟩
      | dir es => simp at h

theorem update_of_leadsToDevice {fs : FileSystem} {path : Path}
    (h : fs.leadsToDevice path = true) (g : Bytes → Bytes) : fs.update path g = (.ok (), fs) := by
  obtain ⟨place, hlocate⟩ := leadsToDevice_iff.1 h
  rw [update, hlocate]
  simp

theorem read_of_leadsToDevice {fs : FileSystem} {path : Path} (h : fs.leadsToDevice path = true) :
    fs.read path = .ok [] := by
  obtain ⟨place, hlocate⟩ := leadsToDevice_iff.1 h
  simp [read, resolve, hlocate, ofArrival, bind, Except.bind]

namespace Opens

theorem update_eq {fs : FileSystem} {path : Path} {place : Place} {content : Bytes} {x : Bool}
    (h : Opens fs path place content x) (g : Bytes → Bytes) :
    fs.update path g = (.ok (), fs.put place (.file (g content) x)) := by
  cases h with
  | old hlocate => rw [update, hlocate]; simp
  | new hlocate => rw [update, hlocate]; simp

theorem content_eq {fs : FileSystem} {path : Path} {place : Place} {content : Bytes} {x : Bool}
    (h : Opens fs path place content x) : fs.content path = content := by
  cases h with
  | old hlocate =>
    simp [FileSystem.content, read, resolve, hlocate, ofArrival, bind, Except.bind,
      Except.toOption]
  | new hlocate =>
    simp [FileSystem.content, read, resolve, hlocate, ofArrival, bind, Except.bind,
      Except.toOption]

/-- The entry of an opened file, which no directory or link stands at. -/
theorem entry {fs : FileSystem} {path : Path} {place : Place} {content : Bytes} {x : Bool}
    (h : Opens fs path place content x) :
    ∃ a, fs.locate .follow path = .ok a ∧ a.EndsAt place false ∧
      (∀ old, fs.node? place = some old → old.isDir = false ∧ old.isLink = false) ∧
      ∃ dir name es, place = dir ++ [name] ∧ fs.node? dir = some (.dir es) := by
  cases h with
  | old hlocate =>
    obtain ⟨-, dir, name, es, hplace, hdir, hnode⟩ :=
      (walks_of_walk_eq (walk_of_locate hlocate)).tells.1 _ _ _ rfl
    refine ⟨_, hlocate, ⟨rfl, rfl⟩, fun old ho => ?_, dir, name, es, hplace, hdir⟩
    rw [hnode, Option.some.injEq] at ho
    subst ho
    exact ⟨rfl, rfl⟩
  | @new dir name hlocate =>
    obtain ⟨es, hdir, hnone⟩ := (walks_of_walk_eq (walk_of_locate hlocate)).tells.2 _ _ _ rfl
    refine ⟨_, hlocate, ⟨rfl, rfl⟩, fun old ho => ?_, dir, name, es, rfl, hdir⟩
    rw [hnone] at ho
    contradiction

end Opens

end FileSystem
end LineShell
