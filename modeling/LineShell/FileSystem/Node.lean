import LineShell.Path

/-!
# The tree of files

A file system is a tree of directories whose leaves are files, symbolic links and devices. A place
is the list of names that leads to a node from the root, each of them the name of an entry; no
place goes through a link. Entries stand in the order in which the directory yields them.
-/
namespace LineShell

abbrev Name := Bytes

/-- What an entry of a directory names. -/
inductive Node where
  | file (content : Bytes) (executable : Bool)
  /-- A symbolic link. -/
  | link (target : Path)
  /-- A device that is always empty and takes whatever is written to it. -/
  | device
  | dir (entries : List (Name × Node))
  deriving Inhabited

abbrev Entries := List (Name × Node)

/-- The names of the entries on the way from the root. -/
abbrev Place := List Name

namespace Node

def isDir : Node → Bool
  | .dir _ => true
  | _ => false

def isFile : Node → Bool
  | .file .. => true
  | _ => false

/-- Changes what a name stands for among entries; a name that comes to stand for nothing goes
away, and a new one comes last. -/
def alterEntry (name : Name) (f : Option Node → Option Node) : Entries → Entries
  | [] => ((f none).map (name, ·)).toList
  | (n, node) :: rest =>
    if n = name then ((f (some node)).map (name, ·)).toList ++ rest
    else (n, node) :: alterEntry name f rest

theorem lookup_alterEntry_self (name : Name) (f : Option Node → Option Node) (es : Entries)
    (h : (es.map (·.1)).Nodup) : (alterEntry name f es).lookup name = f (es.lookup name) := by
  induction es with
  | nil => cases hf : f none <;> simp [alterEntry, hf]
  | cons e es ih =>
    obtain ⟨n, node⟩ := e
    simp only [List.map_cons, List.nodup_cons] at h
    rw [alterEntry]
    split
    · next heq =>
      subst heq
      have hnone : es.lookup n = none := by
        rw [List.lookup_eq_none_iff]
        intro p hp
        rw [bne_iff_ne]
        rintro rfl
        exact h.1 (List.mem_map_of_mem hp)
      cases hf : f (some node) <;> simp [hf, hnone]
    · next hne =>
      have : (name == n) = false := by simp [Ne.symm hne]
      simp [List.lookup_cons, this, ih h.2]

theorem lookup_alterEntry_of_ne {name other : Name} (h : other ≠ name)
    (f : Option Node → Option Node) (es : Entries) :
    (alterEntry name f es).lookup other = es.lookup other := by
  have hb : (other == name) = false := by simp [h]
  induction es with
  | nil => cases hf : f none <;> simp [alterEntry, hf, List.lookup_cons, hb]
  | cons e es ih =>
    obtain ⟨n, node⟩ := e
    rw [alterEntry]
    split
    · next heq =>
      subst heq
      cases hf : f (some node) <;> simp [List.lookup_cons, hb]
    · simp only [List.lookup_cons]
      split
      · rfl
      · exact ih

/-- The node at a place below a node. -/
def get? : Place → Node → Option Node
  | [], node => some node
  | name :: rest, .dir es => (es.lookup name).bind (get? rest)
  | _ :: _, _ => none

/-- Changes what stands at a place. Nothing happens where the way does not lead through
directories. -/
def alter : Place → (Option Node → Option Node) → Option Node → Option Node
  | [], f, node => f node
  | name :: rest, f, some (.dir es) => some (.dir (alterEntry name (alter rest f) es))
  | _ :: _, _, node => node

end Node

/-- The entries of the root directory, and all that lies below. -/
structure FileSystem where
  entries : Entries

namespace FileSystem

def root (fs : FileSystem) : Node :=
  .dir fs.entries

def node? (fs : FileSystem) (place : Place) : Option Node :=
  fs.root.get? place

/-- Changes what stands at a place; the root stays a directory. -/
def alter (fs : FileSystem) (place : Place) (f : Option Node → Option Node) : FileSystem :=
  match Node.alter place f (some fs.root) with
  | some (.dir es) => ⟨es⟩
  | _ => fs

def put (fs : FileSystem) (place : Place) (node : Node) : FileSystem :=
  fs.alter place fun _ => some node

/-- Removes what stands at a place, with all that lies below. -/
def erase (fs : FileSystem) (place : Place) : FileSystem :=
  fs.alter place fun _ => none

end FileSystem

def Place.path (place : Place) : Path :=
  Path.slash :: Path.joinSlash place

end LineShell
