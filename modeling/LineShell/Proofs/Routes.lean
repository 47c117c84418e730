import LineShell.Proofs.Growth

/-!
# Walks in parts

A walk by some names and then by more is the walk by the first and from there the walk by the
others, with as many links left as the first walk has not followed. Links that may be followed and
are not make no difference.
-/
namespace LineShell.FileSystem
variable {fs : FileSystem} {lastLink : LastLink} {links links' : ℕ} {here : Place} {name : Name}
  {front rest todo : List Name} {slash : Bool} {es : Entries} {a : Arrival}

theorem exists_dir_of_below {node : Node} (h : fs.node? (here ++ name :: rest) = some node) :
    ∃ es, fs.node? here = some (.dir es) := by
  have hhere := h
  rw [node?_append, Option.bind_eq_some_iff] at hhere
  obtain ⟨dir, hdir, -⟩ := hhere
  obtain ⟨es, rfl⟩ := Node.isDir_eq_true_iff.1 (isDir_of_node?_below hdir h)
  exact ⟨es, hdir⟩

theorem exists_dir_dropLast (h : fs.node? here = some (.dir es)) :
    ∃ es', fs.node? here.dropLast = some (.dir es') := by
  obtain rfl | ⟨dir, name, rfl⟩ := here.eq_nil_or_concat
  · exact ⟨es, h⟩
  · rw [List.concat_eq_append] at h ⊢
    rw [List.dropLast_concat]
    exact exists_dir_of_below h

/-- The target of a link is looked up from a directory. -/
theorem exists_dir_base (h : fs.node? here = some (.dir es)) (target : Path) :
    ∃ es', fs.node? (if Path.isAbsolute target then [] else here) = some (.dir es') := by
  split
  · exact ⟨_, rfl⟩
  · exact ⟨es, h⟩

/-! ## Steps that are not the last -/

section
variable (hrest : rest ≠ [])
include hrest

theorem walk_past_dot (h : fs.node? here = some (.dir es)) :
    fs.walk lastLink links here ([Path.dot] :: rest) slash =
      fs.walk lastLink links here rest slash := by
  rw [walk_dot h, if_neg (mt List.isEmpty_iff.1 hrest)]

theorem walk_past_dir (hname : Path.IsEntryName name)
    (hdir : fs.node? (here ++ [name]) = some (.dir es)) :
    fs.walk lastLink links here (name :: rest) slash =
      fs.walk lastLink links (here ++ [name]) rest slash := by
  obtain ⟨es', hhere⟩ := exists_dir_of_below hdir
  rw [node?_append_singleton fs hhere] at hdir
  rw [walk_child hhere hname hdir rfl, if_neg (mt List.isEmpty_iff.1 hrest)]

theorem walk_past_link (hname : Path.IsEntryName name) {target : Path}
    (hlink : fs.node? (here ++ [name]) = some (.link target)) :
    fs.walk lastLink (links + 1) here (name :: rest) slash =
      fs.walk lastLink links (if Path.isAbsolute target then [] else here)
        (Path.names target ++ rest) slash := by
  obtain ⟨es', hhere⟩ := exists_dir_of_below hlink
  rw [node?_append_singleton fs hhere] at hlink
  rw [walk_link hhere hname hlink (.inl hrest), List.isEmpty_eq_false_iff.2 hrest, Bool.false_and,
    Bool.or_false]

/-- No walk gets past an entry that is missing. -/
theorem walk_past_absent (h : fs.node? here = some (.dir es)) (hname : Path.IsEntryName name)
    (hnone : fs.node? (here ++ [name]) = none) :
    fs.walk lastLink links here (name :: rest) slash = .error .noEntry := by
  rw [node?_append_singleton fs h] at hnone
  rw [walk_absent h hname hnone, if_neg (mt List.isEmpty_iff.1 hrest)]

end

/-! ## Ways to a directory -/

/-- A walk ends where it ends with more links to follow. -/
theorem Walks.of_le (h : Walks fs lastLink links here todo slash a) (hle : links ≤ links') :
    Walks fs lastLink links' here todo slash a := by
  induction h generalizing links' with
  | stay h => exact .stay h
  | atDot h => exact .atDot h
  | pastDot h hrest _ ih => exact .pastDot h hrest (ih hle)
  | atDotDot h hup => exact .atDotDot h hup
  | pastDotDot h hrest _ ih => exact .pastDotDot h hrest (ih hle)
  | absent h hname hlookup => exact .absent h hname hlookup
  | last h hname hlookup hlink => exact .last h hname hlookup hlink
  | down h hname hlookup hlink hrest _ ih => exact .down h hname hlookup hlink hrest (ih hle)
  | link h hname hlookup hfollows _ ih =>
    obtain ⟨links', rfl⟩ := Nat.exists_eq_add_of_le' (Nat.lt_of_lt_of_le (Nat.succ_pos _) hle)
    exact .link h hname hlookup hfollows (ih (Nat.le_of_succ_le_succ hle))

/-- Two walks that differ in the number of links that they may follow arrive at the same. -/
theorem Walks.eq {b : Arrival} (h : Walks fs lastLink links here todo slash a)
    (h' : Walks fs lastLink links' here todo slash b) : a = b := by
  have hwalk := (h.of_le (Nat.le_max_left links links')).walk_eq
  rw [(h'.of_le (Nat.le_max_right links links')).walk_eq, Except.ok.injEq] at hwalk
  exact hwalk.symm

/-- Names lead from a place to a directory. -/
def LeadsToDir (fs : FileSystem) (links : ℕ) (here : Place) (todo : List Name) (place : Place) :
    Prop :=
  ∃ es, ∀ s, ∃ last s', Walks fs .follow links here todo s (.found place (.dir es) last s')

namespace LeadsToDir
variable {place place' : Place} {target : Path}

theorem nil (h : fs.node? here = some (.dir es)) : LeadsToDir fs links here [] here :=
  ⟨es, fun s => ⟨.root, s, .stay h⟩⟩

/-- No names lead nowhere else. -/
theorem place_eq_of_nil (h : LeadsToDir fs links here [] place) : place = here := by
  obtain ⟨es, hwalks⟩ := h
  obtain ⟨last, s', hwalks⟩ := hwalks false
  cases hwalks
  rfl

theorem place_eq (h : LeadsToDir fs links here todo place)
    (h' : LeadsToDir fs links here todo place') : place = place' := by
  obtain ⟨es, hwalks⟩ := h
  obtain ⟨es', hwalks'⟩ := h'
  obtain ⟨last, s, hwalks⟩ := hwalks false
  obtain ⟨last', s', hwalks'⟩ := hwalks' false
  cases hwalks.eq hwalks'
  rfl

/-- A way to a directory ends at a directory. -/
theorem exists_dir_place (h : LeadsToDir fs links here todo place) :
    ∃ es, fs.node? place = some (.dir es) := by
  obtain ⟨es, hwalks⟩ := h
  obtain ⟨last, s, hwalks⟩ := hwalks false
  exact ⟨es, hwalks.node?_eq.symm⟩

/-- A way to a directory starts at one. -/
theorem exists_dir (h : LeadsToDir fs links here todo place) :
    ∃ es, fs.node? here = some (.dir es) := by
  by_cases hnil : todo = []
  · subst hnil
    obtain rfl := h.place_eq_of_nil
    exact h.exists_dir_place
  · obtain ⟨es, hwalks⟩ := h
    obtain ⟨last, s, hwalks⟩ := hwalks false
    exact hwalks.exists_dir hnil

theorem dot (hfront : LeadsToDir fs links here front place) :
    LeadsToDir fs links here ([Path.dot] :: front) place := by
  obtain ⟨es, hhere⟩ := hfront.exists_dir
  by_cases hnil : front = []
  · subst hnil
    obtain rfl := hfront.place_eq_of_nil
    exact ⟨es, fun s => ⟨_, _, .atDot hhere⟩⟩
  · obtain ⟨es', hwalks⟩ := hfront
    refine ⟨es', fun s => ?_⟩
    obtain ⟨last, s', hnext⟩ := hwalks s
    exact ⟨last, s', .pastDot hhere hnil hnext⟩

theorem dotDot (h : fs.node? here = some (.dir es))
    (hfront : LeadsToDir fs links here.dropLast front place) :
    LeadsToDir fs links here ([Path.dot, Path.dot] :: front) place := by
  by_cases hnil : front = []
  · subst hnil
    obtain rfl := hfront.place_eq_of_nil
    obtain ⟨es', hup⟩ := hfront.exists_dir
    exact ⟨es', fun s => ⟨_, _, .atDotDot h hup⟩⟩
  · obtain ⟨es', hwalks⟩ := hfront
    refine ⟨es', fun s => ?_⟩
    obtain ⟨last, s', hnext⟩ := hwalks s
    exact ⟨last, s', .pastDotDot h hnil hnext⟩

theorem down (hname : Path.IsEntryName name)
    (hfront : LeadsToDir fs links (here ++ [name]) front place) :
    LeadsToDir fs links here (name :: front) place := by
  obtain ⟨es, hdir⟩ := hfront.exists_dir
  obtain ⟨es', hhere⟩ := exists_dir_of_below hdir
  rw [node?_append_singleton fs hhere] at hdir
  by_cases hnil : front = []
  · subst hnil
    obtain rfl := hfront.place_eq_of_nil
    exact ⟨es, fun s => ⟨_, _, .last hhere hname hdir (by simp [Node.isLink])⟩⟩
  · obtain ⟨es₂, hwalks⟩ := hfront
    refine ⟨es₂, fun s => ?_⟩
    obtain ⟨last, s', hnext⟩ := hwalks s
    exact ⟨last, s', .down hhere hname hdir rfl hnil hnext⟩

theorem link (hname : Path.IsEntryName name)
    (hlink : fs.node? (here ++ [name]) = some (.link target))
    (hfront : LeadsToDir fs links (if Path.isAbsolute target then [] else here)
      (Path.names target ++ front) place) :
    LeadsToDir fs (links + 1) here (name :: front) place := by
  obtain ⟨es, hhere⟩ := exists_dir_of_below hlink
  rw [node?_append_singleton fs hhere] at hlink
  obtain ⟨es', hwalks⟩ := hfront
  refine ⟨es', fun s => ?_⟩
  obtain ⟨last, s', hnext⟩ := hwalks (s || (front.isEmpty && Path.endsInSlash target))
  exact ⟨last, s', .link hhere hname hlink (.inr (.inl rfl)) hnext⟩

theorem of_walks {last : LastStep} {s : Bool} (h : Walks fs .follow links here todo slash a)
    (ha : a = .found place (.dir es) last s) : LeadsToDir fs links here todo place := by
  induction h with
  | stay h =>
    cases ha
    exact .nil h
  | atDot h =>
    cases ha
    exact .dot (.nil h)
  | pastDot _ _ _ ih => exact .dot (ih ha)
  | atDotDot h hup =>
    cases ha
    exact .dotDot h (.nil hup)
  | pastDotDot h _ _ ih => exact .dotDot h (ih ha)
  | absent => contradiction
  | last h hname hlookup =>
    cases ha
    exact .down hname (.nil ((node?_append_singleton fs h _).trans hlookup))
  | down _ hname _ _ _ _ ih => exact .down hname (ih ha)
  | link h hname hlookup _ _ ih =>
    exact .link hname ((node?_append_singleton fs h _).trans hlookup) (ih ha)

/-- Ways to a directory are made of steps. -/
theorem induction {motive : ∀ links here todo, LeadsToDir fs links here todo place → Prop}
    (nil : ∀ {links es} (h : fs.node? place = some (.dir es)), motive links place [] (.nil h))
    (dot : ∀ {links here front} (hfront : LeadsToDir fs links here front place),
      motive links here front hfront → motive links here ([Path.dot] :: front) hfront.dot)
    (dotDot : ∀ {links here front es} (h : fs.node? here = some (.dir es))
      (hfront : LeadsToDir fs links here.dropLast front place),
      motive links here.dropLast front hfront →
        motive links here ([Path.dot, Path.dot] :: front) (hfront.dotDot h))
    (down : ∀ {links here name front} (hname : Path.IsEntryName name)
      (hfront : LeadsToDir fs links (here ++ [name]) front place),
      motive links (here ++ [name]) front hfront →
        motive links here (name :: front) (hfront.down hname))
    (link : ∀ {links here name front target} (hname : Path.IsEntryName name)
      (hlink : fs.node? (here ++ [name]) = some (.link target))
      (hfront : LeadsToDir fs links (if Path.isAbsolute target then [] else here)
        (Path.names target ++ front) place),
      motive links _ _ hfront → motive (links + 1) here (name :: front) (hfront.link hname hlink))
    (h : LeadsToDir fs links here todo place) : motive links here todo h := by
  obtain ⟨es, hall⟩ := id h
  obtain ⟨last, s, hwalks⟩ := hall false
  clear hall
  generalize false = slash at hwalks
  generalize ha : Arrival.found place (.dir es) last s = a at hwalks
  induction hwalks with
  | stay hhere =>
    cases ha
    exact nil hhere
  | atDot hhere =>
    cases ha
    exact dot (.nil hhere) (nil hhere)
  | pastDot _ _ hnext ih => exact dot (.of_walks hnext ha.symm) (ih _ ha)
  | atDotDot hhere hup =>
    cases ha
    exact dotDot hhere (.nil hup) (nil hup)
  | pastDotDot hhere _ hnext ih => exact dotDot hhere (.of_walks hnext ha.symm) (ih _ ha)
  | absent => contradiction
  | last hhere hname hlookup =>
    cases ha
    have hdir := (node?_append_singleton fs hhere _).trans hlookup
    exact down hname (.nil hdir) (nil hdir)
  | down _ hname _ _ _ hnext ih => exact down hname (.of_walks hnext ha.symm) (ih _ ha)
  | link hhere hname hlookup _ hnext ih =>
    exact link hname ((node?_append_singleton fs hhere _).trans hlookup)
      (.of_walks hnext ha.symm) (ih _ ha)

theorem of_dot (h : LeadsToDir fs links here ([Path.dot] :: front) place) :
    LeadsToDir fs links here front place := by
  generalize htodo : [Path.dot] :: front = todo at h
  cases h using LeadsToDir.induction with
  | nil => contradiction
  | dot hfront =>
    cases htodo
    exact hfront
  | dotDot => simp at htodo
  | down hname => exact absurd (List.cons.inj htodo).1.symm hname.1
  | link hname => exact absurd (List.cons.inj htodo).1.symm hname.1

theorem of_dotDot (h : LeadsToDir fs links here ([Path.dot, Path.dot] :: front) place) :
    LeadsToDir fs links here.dropLast front place := by
  generalize htodo : [Path.dot, Path.dot] :: front = todo at h
  cases h using LeadsToDir.induction with
  | nil => contradiction
  | dot => simp at htodo
  | dotDot _ hfront =>
    cases htodo
    exact hfront
  | down hname => exact absurd (List.cons.inj htodo).1.symm hname.2.1
  | link hname => exact absurd (List.cons.inj htodo).1.symm hname.2.1

/-- A way by a name that an entry can have goes on from that entry, or from what a link there leads
to. -/
theorem entry_cases (h : LeadsToDir fs links here (name :: front) place)
    (hname : Path.IsEntryName name) : LeadsToDir fs links (here ++ [name]) front place ∨
      ∃ links' target, links = links' + 1 ∧ fs.node? (here ++ [name]) = some (.link target) ∧
        LeadsToDir fs links' (if Path.isAbsolute target then [] else here)
          (Path.names target ++ front) place := by
  generalize htodo : name :: front = todo at h
  cases h using LeadsToDir.induction with
  | nil => contradiction
  | dot => exact absurd (List.cons.inj htodo).1 hname.1
  | dotDot => exact absurd (List.cons.inj htodo).1 hname.2.1
  | down _ hfront =>
    cases htodo
    exact .inl hfront
  | link _ hlink hfront =>
    cases htodo
    exact .inr ⟨_, _, rfl, hlink, hfront⟩

/-- Whoever goes on from the end of a way may follow as many links as are left. -/
theorem exists_links_left (h : LeadsToDir fs links here front place) :
    ∃ links' ≤ links, ∀ rest, rest ≠ [] → ∀ lastLink slash,
      fs.walk lastLink links here (front ++ rest) slash =
        fs.walk lastLink links' place rest slash := by
  have hmore {rest : List Name} (hrest : rest ≠ []) (front : List Name) :
      front ++ rest ≠ [] := by simp [hrest]
  induction h using LeadsToDir.induction with
  | nil => exact ⟨_, Nat.le_refl _, fun _ _ _ _ => rfl⟩
  | dot hfront ih =>
    obtain ⟨es, hhere⟩ := hfront.exists_dir
    obtain ⟨k, hle, heq⟩ := ih
    refine ⟨k, hle, fun rest hrest l s => ?_⟩
    rw [List.cons_append, walk_past_dot (hmore hrest _) hhere, heq rest hrest]
  | dotDot h _ ih =>
    obtain ⟨k, hle, heq⟩ := ih
    refine ⟨k, hle, fun rest hrest l s => ?_⟩
    rw [List.cons_append, walk_past_dotDot h (hmore hrest _), heq rest hrest]
  | down hname hfront ih =>
    obtain ⟨es, hdir⟩ := hfront.exists_dir
    obtain ⟨k, hle, heq⟩ := ih
    refine ⟨k, hle, fun rest hrest l s => ?_⟩
    rw [List.cons_append, walk_past_dir (hmore hrest _) hname hdir, heq rest hrest]
  | link hname hlink _ ih =>
    obtain ⟨k, hle, heq⟩ := ih
    refine ⟨k, Nat.le_succ_of_le hle, fun rest hrest l s => ?_⟩
    rw [List.cons_append, walk_past_link (hmore hrest _) hname hlink, ← List.append_assoc,
      heq rest hrest]

/-- A walk that goes on from the end of a way. -/
theorem walk_append (h : LeadsToDir fs links here front place) (hrest : rest ≠ []) :
    ∃ links', ∀ lastLink slash, fs.walk lastLink links here (front ++ rest) slash =
      fs.walk lastLink links' place rest slash := by
  obtain ⟨links', -, hwalk⟩ := h.exists_links_left
  exact ⟨links', hwalk rest hrest⟩

end LeadsToDir

/-- Before a walk goes on it has come to a directory. -/
theorem Walks.exists_front (h : Walks fs lastLink links here todo slash a)
    (htodo : todo = front ++ rest) (hrest : rest ≠ []) :
    ∃ links' place, LeadsToDir fs links here front place ∧
      Walks fs lastLink links' place rest slash a := by
  induction h generalizing front with
  | stay =>
    obtain ⟨rfl, rfl⟩ := List.append_eq_nil_iff.1 htodo.symm
    contradiction
  | @atDot links _ _ _ h =>
    obtain ⟨rfl, rfl⟩ | ⟨rfl, rfl⟩ := List.singleton_eq_append_iff.1 htodo
    · exact ⟨links, _, .nil h, .atDot h⟩
    · contradiction
  | pastDot h hne hnext ih =>
    cases front with
    | nil =>
      subst htodo
      exact ⟨_, _, .nil h, .pastDot h hne hnext⟩
    | cons x front =>
      obtain ⟨rfl, rfl⟩ := List.cons.inj htodo
      obtain ⟨k, place, hfront, hback⟩ := ih rfl
      exact ⟨k, place, hfront.dot, hback⟩
  | @atDotDot links _ _ _ _ h hup =>
    obtain ⟨rfl, rfl⟩ | ⟨rfl, rfl⟩ := List.singleton_eq_append_iff.1 htodo
    · exact ⟨links, _, .nil h, .atDotDot h hup⟩
    · contradiction
  | pastDotDot h hne hnext ih =>
    cases front with
    | nil =>
      subst htodo
      exact ⟨_, _, .nil h, .pastDotDot h hne hnext⟩
    | cons x front =>
      obtain ⟨rfl, rfl⟩ := List.cons.inj htodo
      obtain ⟨k, place, hfront, hback⟩ := ih rfl
      exact ⟨k, place, hfront.dotDot h, hback⟩
  | @absent links _ _ _ _ h hname hlookup =>
    obtain ⟨rfl, rfl⟩ | ⟨rfl, rfl⟩ := List.singleton_eq_append_iff.1 htodo
    · exact ⟨links, _, .nil h, .absent h hname hlookup⟩
    · contradiction
  | @last links _ _ _ _ _ h hname hlookup hlink =>
    obtain ⟨rfl, rfl⟩ | ⟨rfl, rfl⟩ := List.singleton_eq_append_iff.1 htodo
    · exact ⟨links, _, .nil h, .last h hname hlookup hlink⟩
    · contradiction
  | down h hname hlookup hlink hne hnext ih =>
    cases front with
    | nil =>
      subst htodo
      exact ⟨_, _, .nil h, .down h hname hlookup hlink hne hnext⟩
    | cons x front =>
      obtain ⟨rfl, rfl⟩ := List.cons.inj htodo
      obtain ⟨k, place, hfront, hback⟩ := ih rfl
      exact ⟨k, place, hfront.down hname, hback⟩
  | link h hname hlookup hfollows hnext ih =>
    cases front with
    | nil =>
      subst htodo
      exact ⟨_, _, .nil h, .link h hname hlookup hfollows hnext⟩
    | cons x front =>
      obtain ⟨rfl, rfl⟩ := List.cons.inj htodo
      obtain ⟨k, place, hfront, hback⟩ := ih (List.append_assoc ..).symm
      have hempty : (front ++ rest).isEmpty = false := by simp [hrest]
      rw [List.append_eq, hempty, Bool.false_and, Bool.or_false] at hback
      exact ⟨k, place, hfront.link hname ((node?_append_singleton fs h _).trans hlookup), hback⟩

/-- A way to a directory leads from directory to directory. -/
theorem LeadsToDir.exists_front {place : Place}
    (h : LeadsToDir fs links here (front ++ rest) place) :
    ∃ links' place', LeadsToDir fs links here front place' ∧
      LeadsToDir fs links' place' rest place := by
  by_cases hnil : rest = []
  · subst hnil
    obtain ⟨es, hdir⟩ := h.exists_dir_place
    rw [List.append_nil] at h
    exact ⟨links, place, h, .nil hdir⟩
  · obtain ⟨es, hwalks⟩ := h
    obtain ⟨last, s, hwalks⟩ := hwalks false
    obtain ⟨links', place', hfront, hback⟩ := hwalks.exists_front rfl hnil
    exact ⟨links', place', hfront, .of_walks hback rfl⟩

/-- A walk that ends at a link which it keeps would go on from the target if it followed the link,
as long as it may follow links. -/
theorem Walks.walk_of_keep {place : Place} {target : Path} {s : Bool}
    (h : Walks fs .keep links here todo slash (.found place (.link target) .name s)) :
    ∃ links' dir name, place = dir ++ [name] ∧ fs.walk .follow links here todo slash =
      match links' with
      | 0 => .error .linkLoop
      | links' + 1 => fs.walk .follow links' (if Path.isAbsolute target then [] else dir)
          (Path.names target) (s || Path.endsInSlash target) := by
  generalize ha : Arrival.found place (.link target) .name s = a at h
  induction h with
  | stay => cases ha
  | atDot => cases ha
  | pastDot h hrest _ ih =>
    rw [walk_dot h, if_neg (mt List.isEmpty_iff.1 hrest)]
    exact ih ha
  | atDotDot => cases ha
  | pastDotDot h hrest _ ih =>
    rw [walk_past_dotDot h hrest]
    exact ih ha
  | absent => cases ha
  | @last links here name _ _ _ h hname hlookup hlink =>
    cases ha
    refine ⟨links, here, name, rfl, ?_⟩
    rw [walk_link h hname hlookup (.inr (.inl rfl))]
    cases links <;> simp
  | down h hname hlookup hlink hrest _ ih =>
    rw [walk_child h hname hlookup hlink, if_neg (mt List.isEmpty_iff.1 hrest)]
    exact ih ha
  | link h hname hlookup hfollows _ ih =>
    rw [walk_link h hname hlookup (.inr (.inl rfl))]
    exact ih ha

end LineShell.FileSystem
