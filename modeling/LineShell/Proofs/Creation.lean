import LineShell.Builtin.Files
import LineShell.Proofs.Growth

/-!
# Entries that are made

Making a directory or a file adds one entry where there was none and leaves everything else as it
was; when it fails, everything is as it was. The path that was made is found from then on, so that
whoever makes it again is told that it is there.
-/
namespace LineShell
namespace FileSystem
variable {fs fs' : FileSystem} {path : Path} {dir place : Place} {name : Name} {slash : Bool}
  {node : Node}

/-- An entry is added where there was none, and everything else looks as it did. -/
structure Adds (place : Place) (node : Node) (fs fs' : FileSystem) : Prop where
  absent : fs.node? place = none
  present : fs'.node? place = some node
  same : SameBut place fs fs'

theorem Adds.grows (h : Adds place node fs fs') (hlink : node.isLink = false) : Grows fs fs' := by
  refine h.same.grows (.inr ⟨h.absent, fun added hadded => ?_⟩)
  rw [h.present, Option.some.injEq] at hadded
  exact hadded ▸ hlink

/-- A walk that ends at an entry, be it there or not, ends in a directory. -/
theorem Walks.exists_entry {lastLink : LastLink} {links : ℕ} {here : Place} {todo : List Name}
    {s : Bool} {a : Arrival} (h : Walks fs lastLink links here todo s a)
    (ha : a.EndsAt place slash) :
    ∃ dir name es, place = dir ++ [name] ∧ fs.node? dir = some (.dir es) := by
  induction h with
  | stay => exact ha.elim
  | atDot => exact ha.elim
  | pastDot _ _ _ ih => exact ih ha
  | atDotDot => exact ha.elim
  | pastDotDot _ _ _ ih => exact ih ha
  | absent h => exact ⟨_, _, _, ha.1.symm, h⟩
  | last h => exact ⟨_, _, _, ha.1.symm, h⟩
  | down _ _ _ _ _ _ ih => exact ih ha
  | link _ _ _ _ _ ih => exact ih ha

theorem exists_entry_of_locate {lastLink : LastLink} {a : Arrival}
    (h : fs.locate lastLink path = .ok a) (ha : a.EndsAt place slash) :
    ∃ dir name es, place = dir ++ [name] ∧ fs.node? dir = some (.dir es) :=
  (walks_of_walk_eq (walk_of_locate h)).exists_entry ha

/-- An entry is found missing from a directory. -/
theorem exists_dir_of_missing {lastLink : LastLink}
    (h : fs.locate lastLink path = .ok (.missing dir name slash)) :
    ∃ es, fs.node? dir = some (.dir es) := by
  obtain ⟨dir', name', es, heq, hdir⟩ := exists_entry_of_locate h ⟨rfl, rfl⟩
  obtain ⟨rfl, -⟩ := List.append_inj' heq rfl
  exact ⟨es, hdir⟩

/-- What a path leads to that is missing can be put there. -/
theorem adds_put {lastLink : LastLink} (h : fs.locate lastLink path = .ok (.missing dir name slash))
    (hnode : node.Childless) : Adds (dir ++ [name]) node fs (fs.put (dir ++ [name]) node) := by
  obtain ⟨es, hdir⟩ := exists_dir_of_missing h
  have habsent : fs.node? (dir ++ [name]) = none := (node?_of_locate h).symm
  refine ⟨habsent, node?_put_self hdir name node, sameBut_put hdir hnode fun old hold => ?_⟩
  rw [habsent] at hold
  contradiction

/-- What has been added where a path leads is found there. -/
theorem Adds.pathExists (hadds : Adds (dir ++ [name]) node fs fs')
    (h : fs.locate .follow path = .ok (.missing dir name slash)) (hlink : node.isLink = false)
    (hslash : slash = true → node.isDir = true) : fs'.pathExists path = true := by
  obtain ⟨b, hb, hsite, hnode⟩ := (hadds.grows hlink).locate h
  obtain rfl := Arrival.eq_found hsite (hnode.trans hadds.present)
  exact pathExists_iff.2 ⟨_, _, resolve_eq_ok_iff.2 ⟨_, _, hb, hslash⟩⟩

/-- An operation that makes a node where a path leads, if nothing is there and nothing is in the
way. -/
def Makes (make : FileSystem → Path → Change Unit) (node : Node) : Prop :=
  ∀ fs path, fs.pathExists path = false → (∃ e, make fs path = (.error e, fs)) ∨
    ∃ dir name slash after, fs.locate .follow path = .ok (.missing dir name slash) ∧
      (slash = true → node.isDir = true) ∧ make fs path = (.ok (), after) ∧
      Adds (dir ++ [name]) node fs after

/-- A directory is made or nothing changes. -/
theorem makeDir_eq (fs : FileSystem) (path : Path) : (∃ e, fs.makeDir path = (.error e, fs)) ∨
    ∃ dir name slash, fs.locate .keep path = .ok (.missing dir name slash) ∧
      fs.makeDir path = (.ok (), fs.put (dir ++ [name]) (.dir [])) := by
  rw [makeDir]
  cases fs.locate .keep path with
  | error e => exact .inl ⟨e, rfl⟩
  | ok a =>
    cases a with
    | found => exact .inl ⟨_, rfl⟩
    | missing dir name slash => exact .inr ⟨dir, name, slash, rfl, rfl⟩

theorem makeDir_eq_of_error {e : IoError} (h : (fs.makeDir path).1 = .error e) :
    fs.makeDir path = (.error e, fs) := by
  obtain ⟨e', herror⟩ | ⟨dir, name, slash, -, hmake⟩ := fs.makeDir_eq path
  · rw [herror] at h ⊢
    rw [Except.error.inj h]
  · rw [hmake] at h
    contradiction

theorem makes_makeDir : Makes makeDir (.dir []) := by
  intro fs path _
  obtain herror | ⟨dir, name, slash, hlocate, hmake⟩ := fs.makeDir_eq path
  · exact .inl herror
  · have hfollow := locate_follow hlocate (by simp [Arrival.node?])
    exact .inr ⟨dir, name, slash, _, hfollow, fun _ => rfl, hmake,
      adds_put hlocate Node.childless_empty⟩

theorem makes_create : Makes create (.file [] false) := by
  intro fs path habsent
  rw [create, update]
  cases hlocate : fs.locate .follow path with
  | error e => exact .inl ⟨e, rfl⟩
  | ok a =>
    cases a with
    | missing dir name slash =>
      cases slash with
      | true => exact .inl ⟨_, rfl⟩
      | false => exact .inr ⟨dir, name, false, _, rfl, by simp, rfl,
          adds_put hlocate (Node.childless_of_isDir_eq_false rfl)⟩
    | found place node last slash =>
      -- it is there, so a slash must come after it
      obtain rfl : slash = true := by
        by_contra hslash
        have hfound := resolve_eq_ok_iff.2 ⟨_, _, hlocate, fun hs => absurd hs hslash⟩
        rw [pathExists_iff.2 ⟨_, _, hfound⟩] at habsent
        contradiction
      exact .inl ⟨_, rfl⟩

end FileSystem

namespace Builtin
variable {cwd : Path} {args : List String}

theorem reportChange_error {text : String} {e : IoError} {fs : FileSystem} :
    reportChange text (.error e, fs) = (.error (.io e), fs) := rfl

theorem reportChange_ok {text : String} {fs : FileSystem} :
    reportChange text (.ok (), fs) = (.ok (.text text), fs) := rfl

/-- A source takes the place of what is no directory. -/
theorem destination_of_isDir_eq_false {fs : FileSystem} {target : Path}
    (h : fs.isDir target = false) (source : Path) : destination fs source target = target := by
  rw [destination]
  split <;> simp [h]

/-- A command on a source and a destination is refused, or it is run on what its first two arguments
name. -/
theorem withDestination_cases (b : Builtin) (cwd : Path) (args : List String) (fs : FileSystem)
    (run : Path → Path → FileReport) :
    (∃ e, withDestination b cwd args fs run = (.error e, fs)) ∨
    ∃ name arg others, args = name :: arg :: others ∧
      withDestination b cwd args fs run = run (Path.resolve cwd name)
        (destination fs (Path.resolve cwd name) (Path.resolve cwd arg)) := by
  rw [withDestination, withPath]
  cases args with
  | nil => exact .inl ⟨_, rfl⟩
  | cons name rest =>
    simp only [required]
    cases fs.pathExists (Path.resolve cwd name) with
    | false => exact .inl ⟨_, rfl⟩
    | true =>
      cases rest with
      | nil => exact .inl ⟨_, rfl⟩
      | cons arg others => exact .inr ⟨name, arg, others, rfl, rfl⟩

/-- What becomes of the files when a command makes a node of its own kind: all is as it was if it
fails; else the node is added and nothing else changes, and the command refuses to make it again. -/
structure Creates (node : Node) (kind : String) (args : List String)
    (run : FileSystem → FileReport) (fs : FileSystem) : Prop where
  refused : ∀ e, (run fs).1 = .error e → (run fs).2 = fs
  made : ∀ out, (run fs).1 = .ok out → ∃ name others place, args = name :: others ∧
    FileSystem.Adds place node fs (run fs).2 ∧
    run (run fs).2 = (.error (.alreadyExists kind name), (run fs).2)

/-- A command that makes nothing where something is. -/
theorem creates_of_makes {make : FileSystem → Path → FileSystem.Change Unit} {node : Node}
    (hmake : FileSystem.Makes make node) (hlink : node.isLink = false) (b : Builtin)
    (kind : String) (text : String → String) (fs : FileSystem) :
    Creates node kind args (fun fs => withPath b cwd args fs fun name path =>
      if fs.pathExists path then (.error (.alreadyExists kind name), fs)
      else reportChange (text name) (make fs path)) fs := by
  cases args with
  | nil => exact ⟨fun _ _ => rfl, by simp [withPath, required]⟩
  | cons name others =>
    simp only [withPath, required]
    cases hexists : fs.pathExists (Path.resolve cwd name) with
    | true => exact ⟨fun _ _ => by simp [hexists], by simp [hexists]⟩
    | false =>
      obtain ⟨e, herror⟩ | ⟨dir, last, slash, after, hlocate, hslash, hok, hadds⟩ :=
        hmake fs (Path.resolve cwd name) hexists
      · constructor <;> simp [hexists, herror, reportChange_error]
      · have hthere := hadds.pathExists hlocate hlink hslash
        constructor <;> simp only [hexists, hok, reportChange_ok, Bool.false_eq_true, if_false]
        · simp
        · exact fun _ _ => ⟨name, others, _, rfl, hadds, by simp [hthere]⟩

theorem creates_runMkdir (fs : FileSystem) :
    Creates (.dir []) "Directory" args (runMkdir cwd args) fs :=
  creates_of_makes FileSystem.makes_makeDir rfl .mkdir "Directory"
    (fun name => "Directory " ++ name ++ " created successfully.") fs

theorem creates_runTouch (fs : FileSystem) :
    Creates (.file [] false) "File" args (runTouch cwd args) fs :=
  creates_of_makes FileSystem.makes_create rfl .touch "File"
    (fun name => "File " ++ name ++ " created successfully.") fs

end Builtin
end LineShell
