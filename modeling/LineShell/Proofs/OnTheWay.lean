import LineShell.Proofs.Creation
import LineShell.Proofs.Routes

/-!
# Entries on the way

A path that leads to a directory keeps doing so as long as the entries on the way to it stay what
they are. Adding entries and writing files changes none of them. Nor does removing a file, since
whoever removes a link on the way is told that it leads to a directory.
-/
namespace LineShell.FileSystem
variable {fs fs' : FileSystem} {links : ℕ} {here place q : Place} {todo : List Name}
  {slash : Bool} {path : Path}

/-- The entries that a walk looks up if it follows all links. -/
inductive LooksUp (fs : FileSystem) : ℕ → Place → List Name → Place → Prop
  | entry {links : ℕ} {here : Place} {name : Name} {rest : List Name} :
      Path.IsEntryName name → LooksUp fs links here (name :: rest) (here ++ [name])
  | dot {links : ℕ} {here q : Place} {rest : List Name} :
      LooksUp fs links here rest q → LooksUp fs links here ([Path.dot] :: rest) q
  | dotDot {links : ℕ} {here q : Place} {rest : List Name} :
      LooksUp fs links here.dropLast rest q → LooksUp fs links here ([Path.dot, Path.dot] :: rest) q
  | down {links : ℕ} {here q : Place} {name : Name} {rest : List Name} {es : Entries} :
      Path.IsEntryName name → fs.node? (here ++ [name]) = some (.dir es) →
      LooksUp fs links (here ++ [name]) rest q → LooksUp fs links here (name :: rest) q
  | link {links : ℕ} {here q : Place} {name : Name} {rest : List Name} {target : Path} :
      Path.IsEntryName name → fs.node? (here ++ [name]) = some (.link target) →
      LooksUp fs links (if Path.isAbsolute target then [] else here) (Path.names target ++ rest) q →
      LooksUp fs (links + 1) here (name :: rest) q

/-- An entry is looked up when a path is followed. -/
def OnTheWay (fs : FileSystem) (path : Path) (q : Place) : Prop :=
  fs.LooksUp maxLinks [] (Path.names path) q

/-- What is of the kind of a directory is one, and what is of the kind of a link is that link. -/
theorem exists_dir_of_kind_eq {es : Entries} (h : fs.node? q = some (.dir es))
    (hkind : (fs'.node? q).map Node.kind = (fs.node? q).map Node.kind) :
    ∃ es', fs'.node? q = some (.dir es') := by
  rw [h, Option.map_some, Option.map_eq_some_iff] at hkind
  obtain ⟨node, hnode, hdir⟩ := hkind
  cases node with
  | dir es' => exact ⟨es', hnode⟩
  | _ => contradiction

theorem link_of_kind_eq {target : Path} (h : fs.node? q = some (.link target))
    (hkind : (fs'.node? q).map Node.kind = (fs.node? q).map Node.kind) :
    fs'.node? q = some (.link target) := by
  rw [h, Option.map_some, Option.map_eq_some_iff] at hkind
  obtain ⟨node, hnode, hlink⟩ := hkind
  rw [hnode, Node.kind_eq_link_iff.1 hlink]

/-- A way to a directory is left if all entries that are looked up are what they were. -/
theorem LeadsToDir.of_looksUp_same (h : LeadsToDir fs links here todo place)
    (hhere : ∃ es, fs'.node? here = some (.dir es))
    (hsame : ∀ q, fs.LooksUp links here todo q →
      (fs'.node? q).map Node.kind = (fs.node? q).map Node.kind) :
    LeadsToDir fs' links here todo place := by
  obtain ⟨es', hhere'⟩ := hhere
  induction h using LeadsToDir.induction generalizing es' with
  | nil => exact .nil hhere'
  | dot _ ih => exact .dot (ih (fun q hq => hsame q hq.dot) es' hhere')
  | dotDot _ _ ih =>
    obtain ⟨es₂, hup⟩ := exists_dir_dropLast hhere'
    exact .dotDot hhere' (ih (fun q hq => hsame q hq.dotDot) es₂ hup)
  | down hname hfront ih =>
    obtain ⟨es, hdir⟩ := hfront.exists_dir
    obtain ⟨es₂, hdir'⟩ := exists_dir_of_kind_eq hdir (hsame _ (.entry hname))
    exact .down hname (ih (fun q hq => hsame q (hq.down hname hdir)) es₂ hdir')
  | @link links here name front target hname hlink _ ih =>
    have hlink' := link_of_kind_eq hlink (hsame _ (.entry hname))
    obtain ⟨es₂, hbase⟩ := exists_dir_base hhere' target
    exact .link hname hlink' (ih (fun q hq => hsame q (hq.link hname hlink)) es₂ hbase)

theorem exists_leadsToDir (h : fs.isDir path = true) :
    ∃ place, LeadsToDir fs maxLinks [] (Path.names path) place := by
  obtain ⟨place, es, last, slash, hlocate⟩ := exists_locate_of_isDir h
  exact ⟨place, .of_walks (walks_of_walk_eq (walk_of_locate hlocate)) rfl⟩

/-- A path whose names lead to a directory leads there, if it leads to one in some file system and so
is not too long. -/
theorem LeadsToDir.isDir (h : LeadsToDir fs' maxLinks [] (Path.names path) place)
    (hpath : fs.isDir path = true) : fs'.isDir path = true := by
  obtain ⟨_, _, _, _, hlocate⟩ := exists_locate_of_isDir hpath
  obtain ⟨es, hwalks⟩ := h
  obtain ⟨last, slash, hwalks⟩ := hwalks (Path.endsInSlash path)
  exact isDir_iff.2 ⟨place, es, resolve_eq_ok_iff.2
    ⟨last, slash, locate_of_walk hlocate hwalks.walk_eq, fun _ => rfl⟩⟩

/-- A path that leads to a directory still does if all entries on the way are what they were. -/
theorem isDir_of_onTheWay_same (h : fs.isDir path = true)
    (hsame : ∀ q, fs.OnTheWay path q →
      (fs'.node? q).map Node.kind = (fs.node? q).map Node.kind) : fs'.isDir path = true := by
  obtain ⟨place, hleads⟩ := exists_leadsToDir h
  exact (hleads.of_looksUp_same ⟨_, rfl⟩ hsame).isDir h

/-! ## What is on the way -/

/-- The entries that are looked up by names of which the first is one that an entry can have. -/
theorem LooksUp.entry_cases {name : Name} {rest : List Name}
    (h : fs.LooksUp links here (name :: rest) q) (hname : Path.IsEntryName name) :
    q = here ++ [name] ∨
    (∃ es, fs.node? (here ++ [name]) = some (.dir es) ∧
      fs.LooksUp links (here ++ [name]) rest q) ∨
    ∃ target links', fs.node? (here ++ [name]) = some (.link target) ∧
      fs.LooksUp links' (if Path.isAbsolute target then [] else here)
        (Path.names target ++ rest) q := by
  cases h with
  | entry => exact .inl rfl
  | dot => exact absurd rfl hname.1
  | dotDot => exact absurd rfl hname.2.1
  | down _ hdir hq => exact .inr (.inl ⟨_, hdir, hq⟩)
  | link _ hlink hq => exact .inr (.inr ⟨_, _, hlink, hq⟩)

theorem LooksUp.of_dotDot {rest : List Name}
    (h : fs.LooksUp links here ([Path.dot, Path.dot] :: rest) q) :
    fs.LooksUp links here.dropLast rest q := by
  generalize hup : [Path.dot, Path.dot] = name at h
  cases h with
  | entry hname => exact absurd hup.symm hname.2.1
  | dot => simp at hup
  | dotDot hq => exact hq
  | down hname => exact absurd hup.symm hname.2.1
  | link hname => exact absurd hup.symm hname.2.1

theorem LooksUp.ne_nil (h : fs.LooksUp links here todo q) : todo ≠ [] := by
  cases h <;> exact List.cons_ne_nil _ _

/-- On the way to a directory there are directories, and links that lead to directories. -/
theorem LooksUp.exists_dir_or_link (hq : fs.LooksUp links here todo q)
    (h : LeadsToDir fs links here todo place) :
    (∃ es, fs.node? q = some (.dir es)) ∨ ∃ links' dir name target p, q = dir ++ [name] ∧
      fs.node? q = some (.link target) ∧ LeadsToDir fs links'
        (if Path.isAbsolute target then [] else dir) (Path.names target) p := by
  induction hq with
  | @entry links here name rest hname =>
    obtain hnext | ⟨k, target, -, hlink, hnext⟩ := h.entry_cases hname
    · exact .inl hnext.exists_dir
    · obtain ⟨-, p, hfront, -⟩ := hnext.exists_front
      exact .inr ⟨k, here, name, target, p, rfl, hlink, hfront⟩
  | dot _ ih => exact ih h.of_dot
  | dotDot _ ih => exact ih h.of_dotDot
  | down hname hdir _ ih =>
    obtain hnext | ⟨_, _, -, hlink, -⟩ := h.entry_cases hname
    · exact ih hnext
    · cases hdir.symm.trans hlink
  | link hname hlink _ ih =>
    obtain hnext | ⟨_, _, hk, hlink', hnext⟩ := h.entry_cases hname
    · obtain ⟨es, hdir⟩ := hnext.exists_dir
      cases hdir.symm.trans hlink
    · cases hk
      cases hlink.symm.trans hlink'
      exact ih hnext

theorem OnTheWay.exists_dir_or_link (hq : fs.OnTheWay path q) (h : fs.isDir path = true) :
    (∃ es, fs.node? q = some (.dir es)) ∨ ∃ links' dir name target p, q = dir ++ [name] ∧
      fs.node? q = some (.link target) ∧ LeadsToDir fs links'
        (if Path.isAbsolute target then [] else dir) (Path.names target) p := by
  obtain ⟨place, hleads⟩ := exists_leadsToDir h
  exact LooksUp.exists_dir_or_link hq hleads

theorem LooksUp.exists_node (hq : fs.LooksUp links here todo q)
    (h : LeadsToDir fs links here todo place) : ∃ node, fs.node? q = some node := by
  obtain ⟨es, hdir⟩ | ⟨-, -, -, target, -, -, hlink, -⟩ := hq.exists_dir_or_link h
  · exact ⟨_, hdir⟩
  · exact ⟨_, hlink⟩

theorem OnTheWay.exists_node (hq : fs.OnTheWay path q) (h : fs.isDir path = true) :
    ∃ node, fs.node? q = some node := by
  obtain ⟨place, hleads⟩ := exists_leadsToDir h
  exact LooksUp.exists_node hq hleads

/-! ## What keeps directories where they are -/

/-- What is there is of the kind that it was when the file system has grown. -/
theorem Grows.kind_eq {node : Node} (hgrows : Grows fs fs') (hq : fs.node? q = some node) :
    (fs'.node? q).map Node.kind = (fs.node? q).map Node.kind := by
  obtain hsame | ⟨hnone, -⟩ := hgrows q
  · exact hsame
  · rw [hq] at hnone
    contradiction

theorem Grows.isDir (hgrows : Grows fs fs') (h : fs.isDir path = true) : fs'.isDir path = true := by
  refine isDir_of_onTheWay_same h fun q hq => ?_
  obtain ⟨node, hnode⟩ := hq.exists_node h
  exact hgrows.kind_eq hnode

/-- Who finds something by way of a link that leads to a directory finds a directory. -/
theorem isDir_of_keep {dir place : Place} {name : Name} {target : Path} {s : Bool}
    (hkeep : fs.locate .keep path = .ok (.found (dir ++ [name]) (.link target) .name s))
    (hexists : fs.pathExists path = true)
    (hleads : LeadsToDir fs links (if Path.isAbsolute target then [] else dir)
      (Path.names target) place) : fs.isDir path = true := by
  obtain ⟨p, node, hresolve⟩ := pathExists_iff.1 hexists
  obtain ⟨last, slash, hlocate, -⟩ := resolve_eq_ok_iff.1 hresolve
  have hfollow := walk_of_locate hlocate
  obtain ⟨links', dir', name', hplace, hwalk⟩ :=
    (walks_of_walk_eq (walk_of_locate hkeep)).walk_of_keep
  obtain ⟨rfl, -⟩ := List.append_inj' hplace rfl
  rw [hwalk] at hfollow
  cases links' with
  | zero => contradiction
  | succ links' =>
    obtain ⟨es, hdir⟩ := hleads
    obtain ⟨last', slash', hdir⟩ := hdir (s || Path.endsInSlash target)
    have hsame := hdir.eq (walks_of_walk_eq hfollow)
    obtain rfl : Node.dir es = node := by
      cases hsame
      rfl
    exact isDir_iff.2 ⟨p, es, hresolve⟩

/-- A change at a place leaves alone what is neither there nor below. -/
theorem kind_node?_alter (hq : ¬ place <+: q) (f : Option Node → Option Node) :
    ((fs.alter place f).node? q).map Node.kind = (fs.node? q).map Node.kind := by
  refine map_kind_of_map_face (face_node?_alter ?_ hq f)
  rintro rfl
  exact hq List.nil_prefix

/-- Removing a file takes nothing away that is on the way to a directory. -/
theorem isDir_removeFile {target : Path} (hexists : fs.pathExists target = true)
    (hfile : fs.isDir target = false) (h : fs.isDir path = true) :
    (fs.removeFile target).2.isDir path = true := by
  rw [removeFile]
  split
  · exact h
  · exact h
  · next place node last slash hkeep =>
    split_ifs with hname hslash
    · exact h
    · exact h
    · simp only [Bool.or_eq_true, bne_iff_ne, ne_eq, not_or, not_not, Bool.not_eq_true] at hname
      obtain ⟨rfl, hplain⟩ := hname
      have hnode : fs.node? place = some node := (node?_of_locate hkeep).symm
      -- neither the entry that goes away nor anything below it is on the way
      have hspared (q : Place) (hq : fs.OnTheWay path q) : ¬ place <+: q := by
        rintro ⟨_ | ⟨x, below⟩, rfl⟩
        · rw [List.append_nil] at hq
          obtain ⟨es, hdir⟩ | ⟨links, dir, name, link, p, rfl, hlink, hleads⟩ :=
            hq.exists_dir_or_link h
          · rw [hnode, Option.some.injEq] at hdir
            rw [hdir, Node.isDir] at hplain
            contradiction
          · rw [hnode, Option.some.injEq] at hlink
            rw [hlink] at hkeep
            rw [isDir_of_keep hkeep hexists hleads] at hfile
            contradiction
        · obtain ⟨there, hthere⟩ := hq.exists_node h
          rw [isDir_of_node?_below hnode hthere] at hplain
          contradiction
      exact isDir_of_onTheWay_same h fun q hq => kind_node?_alter (hspared q hq) _

end LineShell.FileSystem
