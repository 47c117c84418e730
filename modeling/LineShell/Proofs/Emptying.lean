import LineShell.Proofs.Taking
import LineShell.Proofs.TwoCopies

/-!
# Directories that are emptied

Removing a directory empties it before its entry is looked up once more, and that may take the way
away by which the path leads there. Two paths that go on alike from one directory then come to the
same if both ways to that directory are left, or neither is.
-/
namespace LineShell.FileSystem
variable {fs fs' : FileSystem} {links : ℕ} {here place q : Place} {todo : List Name}
  {slash : Bool} {es : Entries} {base base' path : Path}

/-- What becomes of a file system from which entries are taken away: what is left is of the kind
that it was. -/
def Shrinks (fs fs' : FileSystem) : Prop :=
  ∀ q, (fs'.node? q).map Node.kind = (fs.node? q).map Node.kind ∨ fs'.node? q = none

theorem shrinks_put_empty (h : fs.node? place = some (.dir es)) :
    Shrinks fs (fs.put place (.dir [])) := by
  intro q
  cases hq : (fs.put place (.dir [])).node? q with
  | none => exact .inr rfl
  | some old =>
    rw [← hq]
    exact .inl (kind_put_empty h hq).symm

/-- A way to a directory is left, or an entry on it is missing so that no walk gets past that. -/
theorem LeadsToDir.of_shrinks (h : LeadsToDir fs links here todo place)
    (hshrinks : Shrinks fs fs') (hhere : ∃ es, fs'.node? here = some (.dir es)) :
    LeadsToDir fs' links here todo place ∨ ∀ lastLink rest s, rest ≠ [] →
      fs'.walk lastLink links here (todo ++ rest) s = .error .noEntry := by
  have hmore {rest : List Name} (hrest : rest ≠ []) (front : List Name) :
      front ++ rest ≠ [] := by simp [hrest]
  obtain ⟨es', hhere'⟩ := hhere
  induction h using LeadsToDir.induction generalizing es' with
  | nil => exact .inl (.nil hhere')
  | dot _ ih =>
    refine (ih es' hhere').imp .dot fun hfails lastLink rest s hrest => ?_
    rw [List.cons_append, walk_past_dot (hmore hrest _) hhere', hfails lastLink rest s hrest]
  | dotDot _ _ ih =>
    obtain ⟨es₂, hup⟩ := exists_dir_dropLast hhere'
    refine (ih es₂ hup).imp (.dotDot hhere') fun hfails lastLink rest s hrest => ?_
    rw [List.cons_append, walk_past_dotDot hhere' (hmore hrest _), hfails lastLink rest s hrest]
  | @down links here name front hname hfront ih =>
    obtain ⟨es, hdir⟩ := hfront.exists_dir
    obtain hsame | hnone := hshrinks (here ++ [name])
    · obtain ⟨es₂, hdir'⟩ := exists_dir_of_kind_eq hdir hsame
      refine (ih es₂ hdir').imp (.down hname) fun hfails lastLink rest s hrest => ?_
      rw [List.cons_append, walk_past_dir (hmore hrest _) hname hdir',
        hfails lastLink rest s hrest]
    · exact .inr fun _ _ _ hrest => walk_past_absent (hmore hrest _) hhere' hname hnone
  | @link links here name front target hname hlink _ ih =>
    obtain hsame | hnone := hshrinks (here ++ [name])
    · have hlink' := link_of_kind_eq hlink hsame
      obtain ⟨es₂, hbase⟩ := exists_dir_base hhere' target
      refine (ih es₂ hbase).imp (.link hname hlink') fun hfails lastLink rest s hrest => ?_
      rw [List.cons_append, walk_past_link (hmore hrest _) hname hlink', ← List.append_assoc,
        hfails lastLink rest s hrest]
    · exact .inr fun _ _ _ hrest => walk_past_absent (hmore hrest _) hhere' hname hnone

/-- A path that leads somewhere in one file system fails in another only as the walk fails. -/
theorem locate_error_of_walk {lastLink lastLink' : LastLink} {a : Arrival} {e : Errno}
    (h : fs.locate lastLink path = .ok a)
    (hwalk : fs'.walk lastLink' maxLinks [] (Path.names path) (Path.endsInSlash path) = .error e) :
    fs'.locate lastLink' path = .error (.os e) := by
  rw [locate, trace] at h ⊢
  split_ifs at h ⊢
  rw [hwalk]

/-- A directory is reached as before, or no path that goes on from there leads anywhere. -/
theorem Reaches.of_shrinks (h : fs.Reaches base place) (hshrinks : Shrinks fs fs')
    (hpath : Path.isAbsolute path = false) (hcounted : Path.counted path ≠ [])
    {lastLink : LastLink} {a : Arrival} (ha : fs.locate lastLink (Path.join base path) = .ok a) :
    fs'.Reaches base place ∨
      ∀ lastLink', fs'.locate lastLink' (Path.join base path) = .error (.os .noEntry) := by
  obtain hleads | hfails := h.leads.of_shrinks hshrinks ⟨_, rfl⟩
  · exact .inl ⟨h.absolute, h.noNul, hleads⟩
  · refine .inr fun lastLink' => locate_error_of_walk ha ?_
    rw [Path.names_join_of_relative hpath]
    exact hfails _ _ _ (Path.names_ne_nil hcounted)

/-- The paths that are looked up when a directory is removed. -/
inductive RemoveTreeAsks (fs : FileSystem) (path : Path) : FileSystem → Path → Prop
  | self : RemoveTreeAsks fs path fs path
  | emptied {place : Place} {es : Entries} {last : LastStep} {slash : Bool} :
      fs.locate .followAtSlash path = .ok (.found place (.dir es) last slash) →
      RemoveTreeAsks fs path (fs.put place (.dir [])) path

theorem removeTree_join_eq (h : fs.Reaches base place) (h' : fs.Reaches base' place)
    (hpath : Path.Counts path) (hwithin : Unlimited (RemoveTreeAsks fs (Path.join base path)))
    (hwithin' : Unlimited (RemoveTreeAsks fs (Path.join base' path)))
    (hways : ∀ target es last slash,
      fs.locate .followAtSlash (Path.join base path) = .ok (.found target (.dir es) last slash) →
      ((fs.put target (.dir [])).Reaches base place ↔
        (fs.put target (.dir [])).Reaches base' place)) :
    fs.removeTree (Path.join base path) = fs.removeTree (Path.join base' path) := by
  cases habs : Path.isAbsolute path with
  | true => rw [Path.join_of_isAbsolute habs, Path.join_of_isAbsolute habs]
  | false =>
    have hlocate := h.followsAlike h' hpath (hwithin _ _ .self) (hwithin' _ _ .self) .followAtSlash
    rw [removeTree, removeTree, ← hlocate]
    split
    · rfl
    · rfl
    · next target node last slash htarget =>
      have htarget' := hlocate.symm.trans htarget
      split
      · rfl
      · next es =>
        have hshrinks : Shrinks fs (fs.put target (.dir [])) :=
          shrinks_put_empty (node?_of_locate htarget).symm
        have hways := hways target es last slash htarget
        suffices heq : (fs.put target (.dir [])).removeDir (Path.join base path) =
            (fs.put target (.dir [])).removeDir (Path.join base' path) by rw [heq]
        by_cases hreaches : (fs.put target (.dir [])).Reaches base place
        · have halike := hreaches.followsAlike (hways.1 hreaches) hpath
            (hwithin _ _ (.emptied htarget)) (hwithin' _ _ (.emptied htarget'))
          rw [removeDir, removeDir, halike .keep]
        · have hfails := (h.of_shrinks hshrinks habs (hpath habs) htarget).resolve_left hreaches
          have hfails' := (h'.of_shrinks hshrinks habs (hpath habs) htarget').resolve_left
            (mt hways.2 hreaches)
          rw [removeDir, removeDir, hfails, hfails']
      · rfl

/-- What a place has strictly below it. -/
def Below (place q : Place) : Prop :=
  place <+: q ∧ q ≠ place

/-- An entry below a directory is not there once the directory has been emptied. -/
theorem not_below_of_node? {target : Place} {node : Node} (h : fs.node? target = some (.dir es))
    (hq : (fs.put target (.dir [])).node? q = some node) : ¬ Below target q := by
  rintro ⟨⟨_ | ⟨name, below⟩, rfl⟩, hne⟩
  · exact hne (List.append_nil _)
  · rw [node?_put_empty h] at hq
    contradiction

/-- A way to a directory is left when another directory is emptied, if no entry on the way has been
below that. -/
theorem LeadsToDir.of_put_empty {target : Place}
    (h : LeadsToDir fs maxLinks [] (Path.names base) place)
    (htarget : fs.node? target = some (.dir es))
    (hspared : ∀ q, fs.OnTheWay base q → ¬ Below target q) :
    LeadsToDir (fs.put target (.dir [])) maxLinks [] (Path.names base) place := by
  refine h.of_looksUp_same ⟨_, rfl⟩ fun q hq => ?_
  by_cases hbelow : target <+: q
  · obtain rfl : q = target := by
      by_contra hne
      exact hspared q hq ⟨hbelow, hne⟩
    have hempty := node?_put_empty htarget []
    rw [List.append_nil] at hempty
    rw [hempty, htarget]
    rfl
  · exact kind_node?_alter hbelow _

/-- A directory is reached as before once another has been emptied, if no entry on the way has been
below that. -/
theorem Reaches.of_put_empty {target : Place} (h : fs.Reaches base place)
    (htarget : fs.node? target = some (.dir es))
    (hspared : ∀ q, fs.OnTheWay base q → ¬ Below target q) :
    (fs.put target (.dir [])).Reaches base place :=
  ⟨h.absolute, h.noNul, h.leads.of_put_empty htarget hspared⟩

/-- A directory spares the way of a path when it is emptied: the path leads to a directory below it,
or nothing on the way lies below it. -/
def Spares (fs : FileSystem) (target : Place) (path : Path) : Prop :=
  (∃ place, fs.LeadsToDir maxLinks [] (Path.names path) place ∧ Below target place) ∨
    ∀ q, fs.OnTheWay path q → ¬ Below target q

/-- A directory that is left is reached by a way that has been spared. -/
theorem Spares.reaches {target : Place} {es' : Entries} (hspares : fs.Spares target base)
    (h : fs.Reaches base place) (htarget : fs.node? target = some (.dir es))
    (hleft : (fs.put target (.dir [])).node? place = some (.dir es')) :
    (fs.put target (.dir [])).Reaches base place := by
  obtain ⟨place', hleads, hbelow⟩ | hspared := hspares
  · obtain rfl := h.leads.place_eq hleads
    exact absurd hbelow (not_below_of_node? htarget hleft)
  · exact h.of_put_empty htarget hspared

end LineShell.FileSystem
