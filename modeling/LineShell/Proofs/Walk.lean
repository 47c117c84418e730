import LineShell.FileSystem.Locate
import Mathlib.Tactic.Common

/-!
# Walks

The steps that a walk takes, one constructor for each way in which it can go on or end. A walk that
fails takes none of them. What holds of every walk is proved by induction on its steps.
-/
namespace LineShell

namespace Node

def isLink : Node → Bool
  | .link _ => true
  | _ => false

theorem isLink_eq_false_iff {node : Node} :
    node.isLink = false ↔ ∀ target, node = .link target → False := by
  cases node <;> simp [isLink]

theorem isLink_eq_true_iff {node : Node} : node.isLink = true ↔ ∃ target, node = .link target := by
  cases node <;> simp [isLink]

theorem isDir_eq_true_iff {node : Node} : node.isDir = true ↔ ∃ es, node = .dir es := by
  cases node <;> simp [isDir]

@[simp] theorem get?_singleton (name : Name) (es : Entries) :
    get? [name] (.dir es) = es.lookup name := by
  cases h : es.lookup name <;> simp [get?, h]

end Node

/-- A name that is looked up in a directory. -/
def Path.IsEntryName (name : Name) : Prop :=
  name ≠ [Path.dot] ∧ name ≠ [Path.dot, Path.dot] ∧ name.length ≤ Path.maxNameLength

instance (name : Name) : Decidable (Path.IsEntryName name) :=
  inferInstanceAs (Decidable (_ ∧ _))

/-- Whether a link is followed, given the names after it and whether a slash comes after them. -/
def LastLink.Follows (lastLink : LastLink) (rest : List Name) (slash : Bool) : Prop :=
  rest ≠ [] ∨ lastLink = .follow ∨ (lastLink = .followAtSlash ∧ slash = true)

namespace FileSystem

/-- The walks that arrive somewhere. -/
inductive Walks (fs : FileSystem) (lastLink : LastLink) :
    ℕ → Place → List Name → Bool → Arrival → Prop
  | stay {links : ℕ} {here : Place} {slash : Bool} {node : Node} : fs.node? here = some node →
      Walks fs lastLink links here [] slash (.found here node .root slash)
  | atDot {links : ℕ} {here : Place} {slash : Bool} {es : Entries} :
      fs.node? here = some (.dir es) →
      Walks fs lastLink links here [[Path.dot]] slash (.found here (.dir es) .dot slash)
  | pastDot {links : ℕ} {here : Place} {rest : List Name} {slash : Bool} {es : Entries}
      {a : Arrival} : fs.node? here = some (.dir es) → rest ≠ [] →
      Walks fs lastLink links here rest slash a →
        Walks fs lastLink links here ([Path.dot] :: rest) slash a
  | atDotDot {links : ℕ} {here : Place} {slash : Bool} {es : Entries} {parent : Node} :
      fs.node? here = some (.dir es) → fs.node? here.dropLast = some parent →
      Walks fs lastLink links here [[Path.dot, Path.dot]] slash
        (.found here.dropLast parent .dotDot slash)
  | pastDotDot {links : ℕ} {here : Place} {rest : List Name} {slash : Bool} {es : Entries}
      {a : Arrival} : fs.node? here = some (.dir es) → rest ≠ [] →
      Walks fs lastLink links here.dropLast rest slash a →
      Walks fs lastLink links here ([Path.dot, Path.dot] :: rest) slash a
  | absent {links : ℕ} {here : Place} {name : Name} {slash : Bool} {es : Entries} :
      fs.node? here = some (.dir es) → Path.IsEntryName name → es.lookup name = none →
      Walks fs lastLink links here [name] slash (.missing here name slash)
  | last {links : ℕ} {here : Place} {name : Name} {slash : Bool} {es : Entries} {node : Node} :
      fs.node? here = some (.dir es) → Path.IsEntryName name → es.lookup name = some node →
      (node.isLink = true → ¬ lastLink.Follows [] slash) →
      Walks fs lastLink links here [name] slash (.found (here ++ [name]) node .name slash)
  | down {links : ℕ} {here : Place} {name : Name} {rest : List Name} {slash : Bool}
      {es : Entries} {node : Node} {a : Arrival} : fs.node? here = some (.dir es) →
      Path.IsEntryName name → es.lookup name = some node → node.isLink = false → rest ≠ [] →
      Walks fs lastLink links (here ++ [name]) rest slash a →
      Walks fs lastLink links here (name :: rest) slash a
  | link {links : ℕ} {here : Place} {name : Name} {rest : List Name} {slash : Bool}
      {es : Entries} {target : Path} {a : Arrival} : fs.node? here = some (.dir es) →
      Path.IsEntryName name → es.lookup name = some (.link target) → lastLink.Follows rest slash →
      Walks fs lastLink links (if Path.isAbsolute target then [] else here)
        (Path.names target ++ rest) (slash || (rest.isEmpty && Path.endsInSlash target)) a →
      Walks fs lastLink (links + 1) here (name :: rest) slash a

theorem follows_iff {lastLink : LastLink} {rest : List Name} {slash : Bool} :
    (!rest.isEmpty || lastLink == .follow || (lastLink == .followAtSlash && slash)) = true ↔
      lastLink.Follows rest slash := by
  simp [LastLink.Follows, or_assoc]

section
variable {fs : FileSystem} {lastLink : LastLink} {links : ℕ} {here : Place} {name : Name}
  {rest : List Name} {slash : Bool} {es : Entries}

theorem walk_nil {node : Node} (h : fs.node? here = some node) :
    fs.walk lastLink links here [] slash = .ok (.found here node .root slash) := by
  rw [walk, h]

theorem walk_dot (h : fs.node? here = some (.dir es)) :
    fs.walk lastLink links here ([Path.dot] :: rest) slash =
      if rest.isEmpty then .ok (.found here (.dir es) .dot slash)
      else fs.walk lastLink links here rest slash := by
  rw [walk, h]
  simp [Node.isDir]

theorem walk_dotDot {parent : Node} (h : fs.node? here = some (.dir es))
    (hup : fs.node? here.dropLast = some parent) :
    fs.walk lastLink links here [[Path.dot, Path.dot]] slash =
      .ok (.found here.dropLast parent .dotDot slash) := by
  rw [walk, h]
  simp [Node.isDir, hup]

theorem walk_past_dotDot (h : fs.node? here = some (.dir es)) (hrest : rest ≠ []) :
    fs.walk lastLink links here ([Path.dot, Path.dot] :: rest) slash =
      fs.walk lastLink links here.dropLast rest slash := by
  rw [walk, h]
  simp [Node.isDir, hrest]

/-- A name without an entry ends a walk. -/
theorem walk_absent (h : fs.node? here = some (.dir es)) (hname : Path.IsEntryName name)
    (hlookup : es.lookup name = none) :
    fs.walk lastLink links here (name :: rest) slash =
      if rest.isEmpty then .ok (.missing here name slash) else .error .noEntry := by
  obtain ⟨hdot, hdots, hlen⟩ := hname
  rw [walk, h]
  simp [Node.isDir, hdot, hdots, Nat.not_lt.2 hlen, hlookup]

/-- A walk goes on from a node that is no link. -/
theorem walk_child (h : fs.node? here = some (.dir es)) (hname : Path.IsEntryName name)
    {node : Node} (hlookup : es.lookup name = some node) (hlink : node.isLink = false) :
    fs.walk lastLink links here (name :: rest) slash =
      if rest.isEmpty then .ok (.found (here ++ [name]) node .name slash)
      else fs.walk lastLink links (here ++ [name]) rest slash := by
  obtain ⟨hdot, hdots, hlen⟩ := hname
  rw [walk, h]
  cases node with
  | link target => simp [Node.isLink] at hlink
  | _ => simp [Node.isDir, hdot, hdots, Nat.not_lt.2 hlen, hlookup]

/-- A walk goes on from what a link leads to, as long as it may follow links. -/
theorem walk_link (h : fs.node? here = some (.dir es)) (hname : Path.IsEntryName name)
    {target : Path} (hlookup : es.lookup name = some (.link target))
    (hfollows : lastLink.Follows rest slash) :
    fs.walk lastLink links here (name :: rest) slash =
      match links with
      | 0 => .error .linkLoop
      | links + 1 =>
        fs.walk lastLink links (if Path.isAbsolute target then [] else here)
          (Path.names target ++ rest) (slash || (rest.isEmpty && Path.endsInSlash target)) := by
  obtain ⟨hdot, hdots, hlen⟩ := hname
  rw [walk, h]
  cases links <;>
    simp only [Node.isDir, Bool.not_true, Bool.false_eq_true, if_false, if_neg hdot, if_neg hdots,
      if_neg (Nat.not_lt.2 hlen), Node.get?_singleton, hlookup, if_pos (follows_iff.2 hfollows)]

/-- A walk may end at a link. -/
theorem walk_link_of_not_follows (h : fs.node? here = some (.dir es))
    (hname : Path.IsEntryName name) {target : Path} (hlookup : es.lookup name = some (.link target))
    (hkeep : ¬ lastLink.Follows rest slash) :
    fs.walk lastLink links here (name :: rest) slash =
      .ok (.found (here ++ [name]) (.link target) .name slash) := by
  obtain ⟨hdot, hdots, hlen⟩ := hname
  rw [walk, h]
  simp only [Node.isDir, Bool.not_true, Bool.false_eq_true, if_false, if_neg hdot, if_neg hdots,
    if_neg (Nat.not_lt.2 hlen), Node.get?_singleton, hlookup, if_neg (mt follows_iff.1 hkeep)]

end

/-- The steps of a walk lead to where it arrives. -/
theorem Walks.walk_eq {fs : FileSystem} {lastLink : LastLink} {links : ℕ} {here : Place}
    {todo : List Name} {slash : Bool} {a : Arrival}
    (h : Walks fs lastLink links here todo slash a) :
    fs.walk lastLink links here todo slash = .ok a := by
  induction h with
  | stay h => exact walk_nil h
  | atDot h => exact walk_dot h
  | pastDot h hrest _ ih => rw [walk_dot h, if_neg (mt List.isEmpty_iff.1 hrest), ih]
  | atDotDot h hup => exact walk_dotDot h hup
  | pastDotDot h hrest _ ih => rw [walk_past_dotDot h hrest, ih]
  | absent h hname hlookup => exact walk_absent h hname hlookup
  | @last links here name slash es node h hname hlookup hlink =>
    cases hnode : node.isLink with
    | false => exact walk_child h hname hlookup hnode
    | true =>
      obtain ⟨target, rfl⟩ := Node.isLink_eq_true_iff.1 hnode
      exact walk_link_of_not_follows h hname hlookup (hlink rfl)
  | down h hname hlookup hlink hrest _ ih =>
    rw [walk_child h hname hlookup hlink, if_neg (mt List.isEmpty_iff.1 hrest), ih]
  | link h hname hlookup hfollows _ ih =>
    rw [walk_link h hname hlookup hfollows]
    exact ih

/-- A walk that arrives takes steps that lead there. -/
theorem walks_of_walk_eq {fs : FileSystem} {lastLink : LastLink} {links : ℕ} {here : Place}
    {todo : List Name} {slash : Bool} {a : Arrival}
    (h : fs.walk lastLink links here todo slash = .ok a) :
    Walks fs lastLink links here todo slash a := by
  induction links, here, todo, slash using walk.induct fs lastLink with
  | case1 links here todo slash hnone => rw [walk, hnone] at h; contradiction
  | case2 links here slash node hnode =>
    rw [walk_nil hnode, Except.ok.injEq] at h
    exact h ▸ .stay hnode
  | case3 links here slash node hnode name rest hdir => rw [walk, hnode] at h; simp [hdir] at h
  | case4 links here slash node hnode rest hdir hrest =>
    obtain ⟨es, rfl⟩ := Node.isDir_eq_true_iff.1 (by simpa using hdir)
    obtain rfl := List.isEmpty_iff.1 hrest
    rw [walk_dot hnode, if_pos hrest, Except.ok.injEq] at h
    exact h ▸ .atDot hnode
  | case5 links here slash node hnode rest hdir hrest ih =>
    obtain ⟨es, rfl⟩ := Node.isDir_eq_true_iff.1 (by simpa using hdir)
    rw [walk_dot hnode, if_neg hrest] at h
    exact .pastDot hnode (mt List.isEmpty_iff.2 hrest) (ih h)
  | case6 links here slash node hnode rest hdir hrest hup hne =>
    rw [walk, hnode] at h
    simp [hdir, hrest, hup] at h
  | case7 links here slash node hnode rest hdir hrest parent hup hne =>
    obtain ⟨es, rfl⟩ := Node.isDir_eq_true_iff.1 (by simpa using hdir)
    obtain rfl := List.isEmpty_iff.1 hrest
    rw [walk_dotDot hnode hup, Except.ok.injEq] at h
    exact h ▸ .atDotDot hnode hup
  | case8 links here slash node hnode rest hdir hrest hne ih =>
    obtain ⟨es, rfl⟩ := Node.isDir_eq_true_iff.1 (by simpa using hdir)
    have hne' : rest ≠ [] := mt List.isEmpty_iff.2 hrest
    rw [walk_past_dotDot hnode hne'] at h
    exact .pastDotDot hnode hne' (ih h)
  | case9 links here slash node hnode name rest hdir hdot hdots hlen =>
    rw [walk, hnode] at h
    simp [hdir, hdot, hdots, hlen] at h
  | case10 links here slash node hnode name rest hdir hdot hdots hlen hnone hrest =>
    obtain ⟨es, rfl⟩ := Node.isDir_eq_true_iff.1 (by simpa using hdir)
    obtain rfl := List.isEmpty_iff.1 hrest
    rw [Node.get?_singleton] at hnone
    have hname : Path.IsEntryName name := ⟨hdot, hdots, Nat.not_lt.1 hlen⟩
    rw [walk_absent hnode hname hnone, if_pos hrest, Except.ok.injEq] at h
    exact h ▸ .absent hnode hname hnone
  | case11 links here slash node hnode name rest hdir hdot hdots hlen hnone hrest =>
    obtain ⟨es, rfl⟩ := Node.isDir_eq_true_iff.1 (by simpa using hdir)
    rw [Node.get?_singleton] at hnone
    rw [walk_absent hnode ⟨hdot, hdots, Nat.not_lt.1 hlen⟩ hnone, if_neg hrest] at h
    contradiction
  | case12 here slash node hnode name rest hdir hdot hdots hlen target hlink hfollows =>
    obtain ⟨es, rfl⟩ := Node.isDir_eq_true_iff.1 (by simpa using hdir)
    rw [Node.get?_singleton] at hlink
    rw [walk_link hnode ⟨hdot, hdots, Nat.not_lt.1 hlen⟩ hlink (follows_iff.1 hfollows)] at h
    contradiction
  | case13 here slash node hnode name rest hdir hdot hdots hlen target hlink hfollows links ih =>
    obtain ⟨es, rfl⟩ := Node.isDir_eq_true_iff.1 (by simpa using hdir)
    rw [Node.get?_singleton] at hlink
    have hname : Path.IsEntryName name := ⟨hdot, hdots, Nat.not_lt.1 hlen⟩
    rw [walk_link hnode hname hlink (follows_iff.1 hfollows)] at h
    exact .link hnode hname hlink (follows_iff.1 hfollows) (ih h)
  | case14 links here slash node hnode name rest hdir hdot hdots hlen target hlink hfollows =>
    obtain ⟨es, rfl⟩ := Node.isDir_eq_true_iff.1 (by simpa using hdir)
    rw [Node.get?_singleton] at hlink
    have hname : Path.IsEntryName name := ⟨hdot, hdots, Nat.not_lt.1 hlen⟩
    have hkeep := mt follows_iff.2 hfollows
    rw [walk_link_of_not_follows hnode hname hlink hkeep, Except.ok.injEq] at h
    obtain rfl : rest = [] := by
      by_contra hrest
      exact hkeep (.inl hrest)
    exact h ▸ .last hnode hname hlink fun _ => hkeep
  | case15 links here slash node hnode name rest hdir hdot hdots hlen child hchild hlookup hrest =>
    obtain ⟨es, rfl⟩ := Node.isDir_eq_true_iff.1 (by simpa using hdir)
    obtain rfl := List.isEmpty_iff.1 hrest
    rw [Node.get?_singleton] at hlookup
    have hname : Path.IsEntryName name := ⟨hdot, hdots, Nat.not_lt.1 hlen⟩
    have hlink : child.isLink = false := Node.isLink_eq_false_iff.2 hchild
    rw [walk_child hnode hname hlookup hlink, if_pos hrest, Except.ok.injEq] at h
    exact h ▸ .last hnode hname hlookup fun hl => by simp [hlink] at hl
  | case16 links here slash node hnode name rest hdir hdot hdots hlen child hchild hlookup hrest
      ih =>
    obtain ⟨es, rfl⟩ := Node.isDir_eq_true_iff.1 (by simpa using hdir)
    rw [Node.get?_singleton] at hlookup
    have hname : Path.IsEntryName name := ⟨hdot, hdots, Nat.not_lt.1 hlen⟩
    have hlink : child.isLink = false := Node.isLink_eq_false_iff.2 hchild
    rw [walk_child hnode hname hlookup hlink, if_neg hrest] at h
    exact .down hnode hname hlookup hlink (mt List.isEmpty_iff.2 hrest) (ih h)

theorem walks_iff {fs : FileSystem} {lastLink : LastLink} {links : ℕ} {here : Place}
    {todo : List Name} {slash : Bool} {a : Arrival} :
    Walks fs lastLink links here todo slash a ↔ fs.walk lastLink links here todo slash = .ok a :=
  ⟨Walks.walk_eq, walks_of_walk_eq⟩

end FileSystem
end LineShell
