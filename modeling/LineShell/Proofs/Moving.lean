import LineShell.Proofs.Creation
import LineShell.Proofs.LossyText
import LineShell.Proofs.Names

/-!
# Entries that are moved

A move takes what one entry stands for to another name. It refuses to do so where something is
found at the new name, and where it fails nothing changes. Since a link that leads nowhere counts as
nothing when the new name is looked at, but is an entry nonetheless, such a link is replaced. No
other entry is ever overwritten, neither by a move nor by making a directory or a file.
-/
namespace LineShell
namespace FileSystem
variable {fs fs' : FileSystem} {source target : Path} {place dest : Place} {node : Node}
  {slash destSlash : Bool}

/-- What stands at one place comes to stand at another, the first is left free, and everything else
looks as it did. -/
structure Moved (place dest : Place) (fs fs' : FileSystem) : Prop where
  subtree : ∀ below, fs'.node? (dest ++ below) = fs.node? (place ++ below)
  gone : ∀ below, fs'.node? (place ++ below) = none
  same : ∀ q, ¬ place <+: q → ¬ dest <+: q →
    (fs'.node? q).map Node.face = (fs.node? q).map Node.face

/-- An entry that is erased leaves nothing below its place, since no other entry has its name. -/
theorem Proper.node?_erase {dir : Place} {name : Name} {es : Entries} (hfs : fs.Proper)
    (hdir : fs.node? dir = some (.dir es)) (below : Place) :
    (fs.erase (dir ++ [name])).node? (dir ++ [name] ++ below) = none :=
  node?_alter_append hdir (.inr (hfs.nodup hdir)) below

/-- An entry can be put at a place that lies neither below nor above its own. -/
theorem Proper.moved {dir₁ dir₂ : Place} {name₁ name₂ : Name} {es₁ es₂ : Entries}
    (hfs : fs.Proper) (hnode : fs.node? (dir₁ ++ [name₁]) = some node)
    (hdir₁ : fs.node? dir₁ = some (.dir es₁)) (hdir₂ : fs.node? dir₂ = some (.dir es₂))
    (hbelow : ¬ dir₁ ++ [name₁] <+: dir₂ ++ [name₂])
    (habove : ¬ dir₂ ++ [name₂] <+: dir₁ ++ [name₁]) :
    Moved (dir₁ ++ [name₁]) (dir₂ ++ [name₂]) fs
      ((fs.erase (dir₁ ++ [name₁])).put (dir₂ ++ [name₂]) node) := by
  have herase {q : Place} (hq : ¬ dir₁ ++ [name₁] <+: q) :
      ((fs.erase (dir₁ ++ [name₁])).node? q).map Node.face = (fs.node? q).map Node.face :=
    face_node?_alter (entry_ne_nil dir₁ name₁) hq _
  have hput {q : Place} (hq : ¬ dir₂ ++ [name₂] <+: q) :
      (((fs.erase (dir₁ ++ [name₁])).put (dir₂ ++ [name₂]) node).node? q).map Node.face =
        ((fs.erase (dir₁ ++ [name₁])).node? q).map Node.face :=
    face_node?_alter (entry_ne_nil dir₂ name₂) hq _
  -- the directory that the entry is put into is still there
  obtain ⟨es, hes⟩ : ∃ es, (fs.erase (dir₁ ++ [name₁])).node? dir₂ = some (.dir es) :=
    exists_dir_of_face_eq
      (herase fun h => hbelow (h.trans (List.prefix_append dir₂ [name₂]))) hdir₂
  constructor
  case subtree =>
    intro below
    rw [node?_put_append hes, node?_append fs (dir₁ ++ [name₁]), hnode, Option.bind_some]
  case gone =>
    intro below
    have hfree : ¬ dir₂ ++ [name₂] <+: dir₁ ++ [name₁] ++ below := fun h =>
      (List.prefix_or_prefix_of_prefix h (List.prefix_append _ below)).elim habove hbelow
    have hface := hput hfree
    rwa [hfs.node?_erase hdir₁, Option.map_none, Option.map_eq_none_iff] at hface
  case same => exact fun q hq hq' => (hput hq').trans (herase hq)

/-- What lies on the way to a directory is a directory. -/
theorem isDir_of_prefix {dir : Place} {es : Entries} (hplace : fs.node? place = some node)
    (hdir : fs.node? dir = some (.dir es)) (h : place <+: dir) : node.isDir = true := by
  obtain ⟨below, rfl⟩ := h
  cases below with
  | nil =>
    rw [List.append_nil, hplace, Option.some.injEq] at hdir
    rw [hdir, Node.isDir]
  | cons name rest => exact isDir_of_node?_below hplace hdir

/-- A directory replaces nothing but directories. -/
theorem isDir_of_mayReplace {old : Node} (h : mayReplace node old = .ok ())
    (hnode : node.isDir = true) : old.isDir = true := by
  obtain ⟨es, rfl⟩ := Node.isDir_eq_true_iff.1 hnode
  cases old with
  | dir => rfl
  | _ => contradiction

/-- A rename of one entry to the name of another, step by step. -/
theorem rename_eq_of_entries {a : Arrival}
    (hsource : fs.locate .keep source = .ok (.found place node .name slash))
    (htarget : fs.locate .keep target = .ok a) (ha : a.EndsAt dest destSlash) :
    fs.rename source target =
      if !node.isDir && (slash || destSlash) then (.error (.os .notDirectory), fs)
      else if place.isPrefixOf dest && (node.isDir && place != dest) then
        (.error (.os .invalid), fs)
      else if dest.isPrefixOf place && place != dest then (.error (.os .notEmpty), fs)
      else if place == dest then (.ok (), fs)
      else
        match a.node?.elim (.ok ()) (mayReplace node) with
        | .error e => (.error (.os e), fs)
        | .ok () => (.ok (), (fs.erase place).put dest node) := by
  cases a with
  | missing dir name s =>
    obtain ⟨rfl, rfl⟩ := ha
    rw [rename, hsource, htarget]
    rfl
  | found p old last s =>
    cases last with
    | name =>
      obtain ⟨rfl, rfl⟩ := ha
      rw [rename, hsource, htarget]
      rfl
    | _ => exact ha.elim

/-- What a rename comes to if both names are those of entries: it fails, it finds that they name the
same entry, or it puts a node where it may be put. -/
theorem rename_of_entries {a : Arrival}
    (hsource : fs.locate .keep source = .ok (.found place node .name slash))
    (htarget : fs.locate .keep target = .ok a) (ha : a.EndsAt dest destSlash) :
    (∃ e, fs.rename source target = (.error e, fs)) ∨
      (node.isDir = false → destSlash = false) ∧
      (place = dest ∧ fs.rename source target = (.ok (), fs) ∨
        place ≠ dest ∧ (place <+: dest → node.isDir = false) ∧ ¬ dest <+: place ∧
        (∀ old, a.node? = some old → mayReplace node old = .ok ()) ∧
        fs.rename source target = (.ok (), (fs.erase place).put dest node)) := by
  rw [rename_eq_of_entries hsource htarget ha]
  split_ifs with hslash hbelow habove hsame
  · exact .inl ⟨_, rfl⟩
  · exact .inl ⟨_, rfl⟩
  · exact .inl ⟨_, rfl⟩
  · exact .inr ⟨by simp_all, .inl ⟨by simpa using hsame, rfl⟩⟩
  · simp only [Bool.and_eq_true, List.isPrefixOf_iff_prefix, bne_iff_ne, beq_iff_eq] at *
    have hplain : node.isDir = false → destSlash = false := by simp_all
    have hinto : place <+: dest → node.isDir = false := by simp_all
    have hover : ¬ dest <+: place := fun h => habove ⟨h, hsame⟩
    cases hold : a.node? with
    | none => exact .inr ⟨hplain, .inr ⟨hsame, hinto, hover, by simp, rfl⟩⟩
    | some old =>
      cases hmay : mayReplace node old with
      | error e => exact .inl ⟨.os e, by simp [hmay]⟩
      | ok => exact .inr ⟨hplain, .inr ⟨hsame, hinto, hover, by simp [hmay], by simp [hmay]⟩⟩

/-- A rename fails and changes nothing, or it takes an entry that is there to the name of one. -/
theorem rename_eq_error_or_entries (fs : FileSystem) (source target : Path) :
    (∃ e, fs.rename source target = (.error e, fs)) ∨ ∃ place node slash a dest destSlash,
      fs.locate .keep source = .ok (.found place node .name slash) ∧
      fs.locate .keep target = .ok a ∧ a.EndsAt dest destSlash := by
  rw [rename]
  split
  case h_3 hsource htarget =>
    split
    · exact .inr ⟨_, _, _, _, _, _, hsource, htarget, rfl, rfl⟩
    · exact .inl ⟨_, rfl⟩
    · exact .inr ⟨_, _, _, _, _, _, hsource, htarget, rfl, rfl⟩
  all_goals exact .inl ⟨_, rfl⟩

/-- What a path leads to if a link that it ends at is not followed: an entry, be it there or not. -/
def LeadsToEntry (fs : FileSystem) (path : Path) (place : Place) : Prop :=
  ∃ a slash, fs.locate .keep path = .ok a ∧ a.EndsAt place slash

/-- What stands at an entry that a path leads to. -/
theorem node?_of_endsAt {lastLink : LastLink} {path : Path} {a : Arrival}
    (h : fs.locate lastLink path = .ok a) (ha : a.EndsAt place slash) :
    a.node? = fs.node? place := by
  rw [node?_of_locate h, Arrival.endsAt_iff.1 ha]

/-- What is not found where an entry is, is a link, or a slash comes after the name of what is no
directory. -/
theorem isLink_of_pathExists_eq_false {a : Arrival} {old : Node}
    (h : fs.locate .keep target = .ok a) (ha : a.EndsAt dest destSlash)
    (hold : fs.node? dest = some old) (hmissing : fs.pathExists target = false) :
    old.isLink = true ∨ destSlash = true ∧ old.isDir = false := by
  cases hlink : old.isLink with
  | true => exact .inl rfl
  | false =>
    have hnode := (node?_of_endsAt h ha).trans hold
    have hfollow := locate_follow h (by simp [hnode, hlink])
    obtain rfl := Arrival.eq_found (Arrival.endsAt_iff.1 ha) hnode
    right
    by_contra hslash
    have hfound := resolve_eq_ok_iff.2 ⟨_, _, hfollow, by simpa using hslash⟩
    rw [pathExists_iff.2 ⟨_, _, hfound⟩] at hmissing
    contradiction

/-- What is replaced where nothing is found is a link, since a slash after the new name is for
directories, which replace nothing but directories. -/
theorem isLink_of_replaced {a : Arrival} {old : Node} (h : fs.locate .keep target = .ok a)
    (ha : a.EndsAt dest destSlash) (hold : fs.node? dest = some old)
    (hmissing : fs.pathExists target = false) (hplain : node.isDir = false → destSlash = false)
    (hmay : node.isDir = true → old.isDir = true) : old.isLink = true := by
  obtain hlink | ⟨rfl, hdir⟩ := isLink_of_pathExists_eq_false h ha hold hmissing
  · exact hlink
  · have hnode : node.isDir = true := by
      by_contra hn
      simpa using hplain (by simpa using hn)
    rw [hmay hnode] at hdir
    contradiction

/-- Nothing lies below a name that is free or that of a link. -/
theorem eq_of_prefix_of_link {q : Place} {old : Node}
    (hfree : ∀ old, fs.node? dest = some old → old.isLink = true) (hq : fs.node? q = some old)
    (h : dest <+: q) : q = dest := by
  obtain ⟨_ | ⟨name, rest⟩, rfl⟩ := h
  · exact List.append_nil dest
  · rw [node?_append, Option.bind_eq_some_iff] at hq
    obtain ⟨link, hlink, hbelow⟩ := hq
    obtain ⟨path, rfl⟩ := Node.isLink_eq_true_iff.1 (hfree link hlink)
    simp [Node.get?] at hbelow

/-- What becomes of the files when an entry is moved to where nothing is found. It takes a name that
was free, or that of a link. Where the two names are those of one link, nothing is moved. -/
structure MovesEntry (source target : Path) (place dest : Place) (fs fs' : FileSystem) : Prop where
  leadsFrom : fs.LeadsToEntry source place
  leadsTo : fs.LeadsToEntry target dest
  there : (fs.node? place).isSome = true
  free : ∀ old, fs.node? dest = some old → old.isLink = true
  moved : Moved place dest fs fs' ∨ place = dest ∧ fs' = fs

/-- Everything that was not moved is still there, but for a link whose name has been taken. -/
theorem MovesEntry.kept (h : MovesEntry source target place dest fs fs') {q : Place} {old : Node}
    (hq : fs.node? q = some old) (hplace : ¬ place <+: q) (hdest : q ≠ dest) :
    (fs'.node? q).map Node.face = some old.face := by
  obtain hmoved | ⟨rfl, rfl⟩ := h.moved
  case inr => rw [hq, Option.map_some]
  rw [hmoved.same q hplace, hq, Option.map_some]
  exact fun hbelow => hdest (eq_of_prefix_of_link h.free hq hbelow)

/-- A rename to where nothing is found fails and changes nothing, or it moves an entry. -/
theorem rename_cases (hfs : fs.Proper) (source : Path) (hmissing : fs.pathExists target = false) :
    (∃ e, fs.rename source target = (.error e, fs)) ∨
    ∃ place dest after, fs.rename source target = (.ok (), after) ∧
      MovesEntry source target place dest fs after := by
  obtain herror | ⟨place, node, slash, a, dest, destSlash, hsource, htarget, ha⟩ :=
    rename_eq_error_or_entries fs source target
  · exact .inl herror
  have hfound : fs.node? place = some node := (node?_of_locate hsource).symm
  have hold : a.node? = fs.node? dest := node?_of_endsAt htarget ha
  obtain herror | ⟨hplain, hrename⟩ := rename_of_entries hsource htarget ha
  · exact .inl herror
  have hends : Arrival.EndsAt place slash (.found place node .name slash) := ⟨rfl, rfl⟩
  have hfrom : fs.LeadsToEntry source place := ⟨_, slash, hsource, hends⟩
  have hto : fs.LeadsToEntry target dest := ⟨a, destSlash, htarget, ha⟩
  have hthere : (fs.node? place).isSome = true := by rw [hfound, Option.isSome_some]
  obtain ⟨rfl, hsame⟩ | ⟨hne, hinto, hover, hmay, hput⟩ := hrename
  · refine .inr ⟨place, place, fs, hsame, hfrom, hto, hthere, fun old ho => ?_, .inr ⟨rfl, rfl⟩⟩
    refine isLink_of_replaced htarget ha ho hmissing hplain fun hdir => ?_
    rw [hfound, Option.some.injEq] at ho
    exact ho ▸ hdir
  · refine .inr ⟨place, dest, _, hput, hfrom, hto, hthere, fun old ho => ?_, .inl ?_⟩
    · exact isLink_of_replaced htarget ha ho hmissing hplain
        (isDir_of_mayReplace (hmay old (hold.trans ho)))
    · obtain ⟨dir₁, name₁, es₁, rfl, hdir₁⟩ := exists_entry_of_locate hsource hends
      obtain ⟨dir₂, name₂, es₂, rfl, hdir₂⟩ := exists_entry_of_locate htarget ha
      refine hfs.moved hfound hdir₁ hdir₂ (fun hbelow => ?_) hover
      have hdir := isDir_of_prefix hfound hdir₂ ((List.prefix_concat_iff.1 hbelow).resolve_left hne)
      rw [hinto hbelow] at hdir
      contradiction

end FileSystem

namespace Builtin
open FileSystem (besideDanglingLink proper_besideDanglingLink locate_fileBesideLink
  resolve_fileBesideLink locate_danglingLink)
variable {cwd : Path} {args : List String} {fs : FileSystem}

/-- What becomes of the files when the shell is told to move one: all is as it was if that fails;
else nothing was found at the new name, and an entry has been moved there. -/
structure Moves (cwd : Path) (args : List String) (fs : FileSystem) : Prop where
  refused : ∀ e, (runMv cwd args fs).1 = .error e → (runMv cwd args fs).2 = fs
  moved : ∀ out, (runMv cwd args fs).1 = .ok out → ∃ name arg others target place dest,
    args = name :: arg :: others ∧
    target = destination fs (Path.resolve cwd name) (Path.resolve cwd arg) ∧
    fs.pathExists target = false ∧
    FileSystem.MovesEntry (Path.resolve cwd name) target place dest fs (runMv cwd args fs).2 ∧
    ∀ q old, fs.node? q = some old → ¬ place <+: q → q ≠ dest →
      ((runMv cwd args fs).2.node? q).map Node.face = some old.face

/-- A move is refused, or comes to a rename to where nothing is found. -/
theorem runMv_eq_error_or_rename (cwd : Path) (args : List String) (fs : FileSystem) :
    (∃ e, runMv cwd args fs = (.error e, fs)) ∨ ∃ name arg others target,
      args = name :: arg :: others ∧
      target = destination fs (Path.resolve cwd name) (Path.resolve cwd arg) ∧
      fs.pathExists target = false ∧ runMv cwd args fs =
        reportChange ("File moved to " ++ Utf8.lossy target)
          (fs.rename (Path.resolve cwd name) target) := by
  rw [runMv]
  obtain hrefused | ⟨name, arg, others, hargs, hrun⟩ :=
    withDestination_cases .mv cwd args fs fun source target => if fs.pathExists target then _ else _
  · exact .inl hrefused
  rw [hrun]
  let target := destination fs (Path.resolve cwd name) (Path.resolve cwd arg)
  cases hmissing : fs.pathExists target with
  | true => exact .inl ⟨.alreadyExists "File" (Utf8.lossy target), rfl⟩
  | false =>
    cases hparent : (Path.parent? target).filter (!fs.isDir ·) with
    | some parent => exact .inl ⟨.pathNotFound "Destination path" (Utf8.lossy parent), rfl⟩
    | none => exact .inr ⟨name, arg, others, target, hargs, rfl, hmissing, rfl⟩

theorem moves (hfs : fs.Proper) : Moves cwd args fs := by
  obtain ⟨e, hrefused⟩ | ⟨name, arg, others, target, hargs, htarget, hmissing, hrun⟩ :=
    runMv_eq_error_or_rename cwd args fs
  · constructor <;> simp [hrefused]
  · obtain ⟨e, herror⟩ | ⟨place, dest, after, hok, hmoves⟩ :=
      FileSystem.rename_cases hfs (Path.resolve cwd name) hmissing
    · constructor <;> simp [hrun, herror, reportChange_error]
    · rw [hok, reportChange_ok] at hrun
      refine ⟨by simp [hrun], fun _ _ => ?_⟩
      rw [hrun]
      exact ⟨name, arg, others, target, place, dest, hargs, htarget, hmissing, hmoves,
        fun q old hq hplace hdest => hmoves.kept hq hplace hdest⟩

/-- The path of the root leads to the root. -/
theorem resolve_root (fs : FileSystem) : fs.resolve "/" = .ok ([], fs.root) := by
  have hnames : Path.names "/" = [] := by decide
  have hslash : Path.endsInSlash "/" = true := by decide
  have hlocate : fs.locate .follow "/" = .ok (.found [] fs.root .root true) := by
    apply FileSystem.locate_of_walks (by decide) (by decide) (by decide)
    rw [hnames, hslash]
    exact .stay rfl
  exact FileSystem.resolve_eq_ok_iff.2 ⟨_, _, hlocate, fun _ => rfl⟩

theorem isDir_root (fs : FileSystem) : fs.isDir "/" = true :=
  FileSystem.isDir_iff.2 ⟨_, _, resolve_root fs⟩

/-- A file that is told to take the name of the link takes it. -/
theorem runMv_onto_link : runMv "/" ["a", "l"] besideDanglingLink =
    (.ok (.text ("File moved to " ++ "/l")),
      (besideDanglingLink.erase ["a"]).put ["l"] (.file [1] false)) := by
  have hsource : Path.resolve "/" "a" = "/a" := by decide
  have htarget : Path.resolve "/" "l" = "/l" := by decide
  have hthere : besideDanglingLink.pathExists "/a" = true :=
    FileSystem.pathExists_iff.2 ⟨_, _, resolve_fileBesideLink⟩
  have hresolve := FileSystem.resolve_of_missing locate_danglingLink.2
  have hmissing : besideDanglingLink.pathExists "/l" = false :=
    FileSystem.pathExists_of_resolve_error hresolve
  have hdest : destination besideDanglingLink "/a" "/l" = "/l" :=
    destination_of_isDir_eq_false (FileSystem.isDir_of_resolve_error hresolve) "/a"
  have hparent : (Path.parent? "/l").filter (!besideDanglingLink.isDir ·) = none := by
    have hroot : Path.parent? "/l" = some "/" := by decide
    simp [hroot, Option.filter, isDir_root]
  have hrename : besideDanglingLink.rename "/a" "/l" =
      (.ok (), (besideDanglingLink.erase ["a"]).put ["l"] (.file [1] false)) := by
    rw [FileSystem.rename, locate_fileBesideLink, locate_danglingLink.1]
    rfl
  simp [runMv, withDestination, withPath, required, hsource, htarget, hthere, hdest, hmissing,
    hparent, hrename, reportChange_ok]

/-- A link that leads nowhere is overwritten by a file that is moved to its name. -/
theorem dangling_link_overwritten :
    besideDanglingLink.node? ["l"] = some (.link "nowhere") ∧
      (∃ text, (runMv "/" ["a", "l"] besideDanglingLink).1 = .ok text) ∧
      (runMv "/" ["a", "l"] besideDanglingLink).2.node? ["l"] = some (.file [1] false) := by
  rw [runMv_onto_link]
  exact ⟨rfl, ⟨_, rfl⟩, rfl⟩

/-- Making a directory or a file overwrites nothing, and a move overwrites nothing but a link by
which nothing is found. -/
theorem only_links_overwritten (hfs : fs.Proper) (cwd : Path) (args : List String) :
    Creates (.dir []) "Directory" args (runMkdir cwd args) fs ∧
      Creates (.file [] false) "File" args (runTouch cwd args) fs ∧ Moves cwd args fs :=
  ⟨creates_runMkdir fs, creates_runTouch fs, moves hfs⟩

/-- The link is overwritten and nothing else. -/
theorem only_links_overwritten_beside_link : besideDanglingLink.Proper ∧
    ∃ target place dest, besideDanglingLink.MovesEntry (Path.resolve "/" "a") target place dest
      ((besideDanglingLink.erase ["a"]).put ["l"] (.file [1] false)) := by
  refine ⟨proper_besideDanglingLink, ?_⟩
  obtain ⟨name, arg, others, target, place, dest, hargs, -, -, hmoves, -⟩ :=
    (only_links_overwritten proper_besideDanglingLink "/" ["a", "l"]).2.2.moved _
      (congrArg Prod.fst runMv_onto_link)
  obtain rfl : "a" = name := (List.cons.inj hargs).1
  rw [runMv_onto_link] at hmoves
  exact ⟨target, place, dest, hmoves⟩

end Builtin
end LineShell
