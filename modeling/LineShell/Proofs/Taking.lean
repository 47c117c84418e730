import LineShell.Proofs.FileEffects
import LineShell.Proofs.Moving

/-!
# Entries that are taken away

An rmdir takes away the directory that it is told to remove, with what lies below, and an mv what it
is told to move; an mv may also take a name away from a link. No other plan takes anything away that
is on the way to a directory, and these two take nothing else.
-/
namespace LineShell
namespace FileSystem
variable {fs : FileSystem} {source target path : Path} {place q : Place} {old : Node}
  {es : Entries} {last : LastStep} {slash : Bool}

/-- Nothing is left below a directory that has been emptied. -/
theorem node?_put_empty (h : fs.node? place = some (.dir es)) (below : Place) :
    (fs.put place (.dir [])).node? (place ++ below) = (Node.dir []).get? below := by
  obtain rfl | ⟨dir, name, rfl⟩ := place.eq_nil_or_concat
  · rfl
  · rw [List.concat_eq_append] at h ⊢
    obtain ⟨es', hdir⟩ := exists_dir_dropLast h
    rw [List.dropLast_concat] at hdir
    exact node?_put_append hdir (.dir []) below

/-- All that is there once a directory has been emptied is of the kind that it was. -/
theorem kind_put_empty (h : fs.node? place = some (.dir es))
    (hq : (fs.put place (.dir [])).node? q = some old) :
    (fs.node? q).map Node.kind = ((fs.put place (.dir [])).node? q).map Node.kind := by
  by_cases hbelow : place <+: q
  · obtain ⟨_ | ⟨name, rest⟩, rfl⟩ := hbelow
    · rw [node?_put_empty h, List.append_nil, h]
      rfl
    · rw [node?_put_empty h] at hq
      contradiction
  · exact (kind_node?_alter hbelow _).symm

/-- A path that leads to a directory does not lead to another one when that has been emptied. -/
theorem place_eq_of_put_empty {place' : Place} {es' : Entries} {last' : LastStep} {slash' : Bool}
    (h : fs.locate .followAtSlash path = .ok (.found place (.dir es) last slash))
    (h' : (fs.put place (.dir [])).locate .keep path =
      .ok (.found place' (.dir es') last' slash')) : place' = place := by
  have hplace : fs.node? place = some (.dir es) := (node?_of_locate h).symm
  have hwalks := walks_of_walk_eq
    (walk_of_locate (locate_follow h (by simp [Arrival.node?, Node.isLink])))
  have hemptied := walks_of_walk_eq
    (walk_of_locate (locate_follow h' (by simp [Arrival.node?, Node.isLink])))
  have hleads := LeadsToDir.of_walks hwalks rfl
  have hleads' := LeadsToDir.of_walks hemptied rfl
  -- what the way to the other one takes is left over, so that it has been there before
  have hsame := hleads'.of_looksUp_same ⟨_, rfl⟩ fun q hq => by
    obtain ⟨node, hnode⟩ := hq.exists_node hleads'
    exact kind_put_empty hplace hnode
  exact hsame.place_eq hleads

/-- Removing an empty directory fails and changes nothing, or takes that directory away. -/
theorem removeDir_cases (fs : FileSystem) (path : Path) :
    (∃ e, fs.removeDir path = (.error e, fs)) ∨
      ∃ place last slash, fs.locate .keep path = .ok (.found place (.dir []) last slash) ∧
        fs.removeDir path = (.ok (), fs.erase place) := by
  rw [removeDir]
  split
  case h_6 place node slash hkeep =>
    split
    · exact .inr ⟨place, _, slash, hkeep, rfl⟩
    · exact .inl ⟨_, rfl⟩
    · exact .inl ⟨_, rfl⟩
  all_goals exact .inl ⟨_, rfl⟩

/-- Removing a directory changes nothing, or nothing but what stands where its path leads and what
lies below. -/
theorem removeTree_cases (fs : FileSystem) (path : Path) : (fs.removeTree path).2 = fs ∨
    ∃ place node last slash, fs.locate .followAtSlash path = .ok (.found place node last slash) ∧
      ∀ q, ¬ place <+: q →
        ((fs.removeTree path).2.node? q).map Node.kind = (fs.node? q).map Node.kind := by
  rw [removeTree]
  split
  case h_1 => exact .inl rfl
  case h_2 => exact .inl rfl
  case h_3 place node last slash hlocate =>
    split
    case h_1 => exact .inr ⟨place, _, last, slash, hlocate, fun q hq => kind_node?_alter hq _⟩
    case h_3 => exact .inl rfl
    case h_2 es =>
      refine .inr ⟨place, _, last, slash, hlocate, fun q hq => ?_⟩
      have hemptied : ((fs.put place (.dir [])).node? q).map Node.kind =
          (fs.node? q).map Node.kind := kind_node?_alter hq _
      obtain ⟨e, herror⟩ | ⟨place', last', slash', hkeep, hok⟩ :=
        (fs.put place (.dir [])).removeDir_cases path
      · rw [herror]
        split
        · next heq =>
          cases heq
          exact hemptied
        · exact hemptied
      · obtain rfl := place_eq_of_put_empty hlocate hkeep
        rw [hok]
        exact (kind_node?_alter hq _).trans hemptied

/-- A rename to where nothing is found changes nothing but what it moves and where it puts it. -/
theorem kind_rename (hmissing : fs.pathExists target = false) (hq : fs.node? q = some old)
    (hkind : ((fs.rename source target).2.node? q).map Node.kind ≠ (fs.node? q).map Node.kind) :
    (∃ place node slash, fs.locate .keep source = .ok (.found place node .name slash) ∧
      place <+: q) ∨
    ∃ link slash, fs.locate .keep target = .ok (.found q (.link link) .name slash) := by
  obtain ⟨e, herror⟩ | ⟨place, node, slash, a, dest, destSlash, hsource, htarget, ha⟩ :=
    rename_eq_error_or_entries fs source target
  · exact absurd (by rw [herror]) hkind
  obtain ⟨e, herror⟩ | ⟨hplain, ⟨-, hsame⟩ | ⟨-, -, -, hmay, hput⟩⟩ :=
    rename_of_entries hsource htarget ha
  · exact absurd (by rw [herror]) hkind
  · exact absurd (by rw [hsame]) hkind
  by_cases hplace : place <+: q
  · exact .inl ⟨place, node, slash, hsource, hplace⟩
  by_cases hdest : dest <+: q
  · have hfree (old : Node) (hold : fs.node? dest = some old) : old.isLink = true :=
      isLink_of_replaced htarget ha hold hmissing hplain
        (isDir_of_mayReplace (hmay old ((node?_of_endsAt htarget ha).trans hold)))
    obtain rfl := eq_of_prefix_of_link hfree hq hdest
    obtain ⟨link, rfl⟩ := Node.isLink_eq_true_iff.1 (hfree old hq)
    obtain rfl :=
      Arrival.eq_found (Arrival.endsAt_iff.1 ha) ((node?_of_endsAt htarget ha).trans hq)
    exact .inr ⟨link, destSlash, htarget⟩
  · rw [hput] at hkind
    exact absurd ((kind_node?_alter hdest _).trans (kind_node?_alter hplace _)) hkind

end FileSystem

namespace Plan
variable {cwd path : Path} {fs : FileSystem} {plan : Plan} {q : Place} {old : Node}

/-- What a plan may take away: what an rmdir is told to remove, what an mv is told to move, and the
link whose name that is to have. -/
inductive Takes (cwd : Path) (fs : FileSystem) : Plan → Place → Prop
  | removed {arg : String} {others : List String} {place : Place} {node : Node} {last : LastStep}
      {slash : Bool} :
      fs.locate .followAtSlash (Path.resolve cwd arg) = .ok (.found place node last slash) →
      Takes cwd fs (.simple ⟨"rmdir", arg :: others⟩) place
  | moved {source target : String} {others : List String} {place : Place} {node : Node}
      {slash : Bool} :
      fs.locate .keep (Path.resolve cwd source) = .ok (.found place node .name slash) →
      Takes cwd fs (.simple ⟨"mv", source :: target :: others⟩) place
  | renamed {source target : String} {others : List String} {place : Place} {link : Path}
      {slash : Bool} :
      fs.locate .keep (Builtin.destination fs (Path.resolve cwd source) (Path.resolve cwd target)) =
        .ok (.found place (.link link) .name slash) →
      Takes cwd fs (.simple ⟨"mv", source :: target :: others⟩) place

theorem exists_takes_rmdir {args : List String}
    (hkind : ((Builtin.runRmdir cwd args fs).2.node? q).map Node.kind ≠
      (fs.node? q).map Node.kind) :
    ∃ place, Takes cwd fs (.simple ⟨"rmdir", args⟩) place ∧ place <+: q := by
  cases args with
  | nil => exact absurd rfl hkind
  | cons arg others =>
    rw [Builtin.runRmdir, Builtin.withPath, Builtin.required] at hkind
    dsimp only at hkind
    split_ifs at hkind with hdir
    · exact absurd rfl hkind
    · rw [Builtin.files_reportChange] at hkind
      obtain hsame | ⟨place, node, last, slash, hlocate, hsame⟩ :=
        fs.removeTree_cases (Path.resolve cwd arg)
      · exact absurd (by rw [hsame]) hkind
      · refine ⟨place, .removed hlocate, ?_⟩
        by_contra hplace
        exact hkind (hsame q hplace)

theorem exists_takes_mv {args : List String} (hq : fs.node? q = some old)
    (hkind : ((Builtin.runMv cwd args fs).2.node? q).map Node.kind ≠ (fs.node? q).map Node.kind) :
    ∃ place, Takes cwd fs (.simple ⟨"mv", args⟩) place ∧ place <+: q := by
  obtain ⟨e, herror⟩ | ⟨source, arg, others, target, rfl, rfl, hmissing, hrun⟩ :=
    Builtin.runMv_eq_error_or_rename cwd args fs
  · exact absurd (by rw [herror]) hkind
  · rw [hrun, Builtin.files_reportChange] at hkind
    obtain ⟨place, node, slash, hsource, hplace⟩ | ⟨link, slash, htarget⟩ :=
      FileSystem.kind_rename hmissing hq hkind
    · exact ⟨place, .moved hsource, hplace⟩
    · exact ⟨q, .renamed htarget, List.prefix_rfl⟩

/-- A path that leads to a directory still does after a plan, unless the plan has taken away an
entry on the way. -/
theorem isDir_filesAfter (plan : Plan) (cwd : Path) (h : fs.isDir path = true)
    (hkept : ∀ place q, plan.Takes cwd fs place → place <+: q → fs.OnTheWay path q →
      ((plan.filesAfter cwd fs).node? q).map Node.kind = (fs.node? q).map Node.kind) :
    (plan.filesAfter cwd fs).isDir path = true := by
  cases plan with
  | noOp => exact h
  | piped stages => exact h
  | backgrounded cmd => exact h
  | redirected redirection => exact (redirection.grows_apply cwd fs).isDir h
  | simple cmd =>
    obtain ⟨program, args⟩ := cmd
    cases hname : Builtin.ofName? program with
    | none =>
      rw [filesAfter, hname]
      exact h
    | some b =>
      obtain rfl := Builtin.name_of_ofName? hname
      have hafter : filesAfter (.simple ⟨b.name, args⟩) cwd fs = b.filesAfter cwd args fs := by
        rw [filesAfter, hname, Option.map_some, Option.getD_some]
      rw [hafter] at hkept ⊢
      cases b with
      | cp => exact (Builtin.grows_runCp cwd args fs).isDir h
      | mkdir => exact (Builtin.grows_runMkdir cwd args fs).isDir h
      | touch => exact (Builtin.grows_runTouch cwd args fs).isDir h
      | rm => exact Builtin.isDir_runRm cwd args fs h
      | rmdir =>
        refine FileSystem.isDir_of_onTheWay_same h fun q hq => ?_
        by_contra hkind
        obtain ⟨place, htakes, hplace⟩ := exists_takes_rmdir hkind
        exact hkind (hkept place q htakes hplace hq)
      | mv =>
        refine FileSystem.isDir_of_onTheWay_same h fun q hq => ?_
        by_contra hkind
        obtain ⟨old, hold⟩ := hq.exists_node h
        obtain ⟨place, htakes, hplace⟩ := exists_takes_mv hold hkind
        exact hkind (hkept place q htakes hplace hq)
      | _ => exact h

end Plan
end LineShell
