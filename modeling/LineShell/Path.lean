import LineShell.Text.Utf8

/-!
# Paths

A path is a string of bytes that need not be text; two spellings of one place stay apart. A path has
a lead, which is a slash or a lone dot at its start, and segments between slashes after it. Empty
segments and segments that are a dot count for nothing when paths are compared by components. Text
stands for the path of its bytes, and a path is shown as text with replacement characters for the
parts that are not UTF-8.
-/
namespace LineShell

/-- A path as it is spelled. -/
abbrev Path := Bytes

instance : Coe String Path := ⟨Utf8.encode⟩

namespace Path

abbrev slash : UInt8 := 0x2F

abbrev dot : UInt8 := 0x2E

/-- The parts that a path is compared by. -/
inductive Component where
  | root
  | current
  | parent
  | name (text : Bytes)
  deriving Repr, DecidableEq

/-- The pieces between slashes; there is one more of them than there are slashes. -/
def splitSlash : Bytes → List Bytes
  | [] => [[]]
  | 0x2F :: bs => [] :: splitSlash bs
  | b :: bs =>
    match splitSlash bs with
    | [] => [[b]]
    | piece :: rest => (b :: piece) :: rest

def joinSlash : List Bytes → Bytes
  | [] => []
  | [piece] => piece
  | piece :: rest => piece ++ slash :: joinSlash rest

theorem splitSlash_ne_nil (s : Bytes) : splitSlash s ≠ [] := by
  induction s with
  | nil => simp [splitSlash]
  | cons b bs ih =>
    unfold splitSlash
    split <;> simp_all
    split <;> simp

theorem joinSlash_splitSlash (s : Bytes) : joinSlash (splitSlash s) = s := by
  fun_induction splitSlash s with
  | case1 => rfl
  | case2 bs ih =>
    cases h : splitSlash bs with
    | nil => exact absurd h (splitSlash_ne_nil bs)
    | cons p ps => rw [joinSlash, ← h, ih, List.nil_append]; simp
  | case3 b bs _ h ih => exact absurd h (splitSlash_ne_nil bs)
  | case4 b bs _ p ps h ih =>
    rw [h] at ih
    cases ps with
    | nil => simpa [joinSlash] using ih
    | cons q qs => simpa [joinSlash] using ih

theorem joinSlash_append_singleton (pieces : List Bytes) (last : Bytes) :
    joinSlash (pieces ++ [last])
      = if pieces = [] then last else joinSlash pieces ++ slash :: last := by
  induction pieces with
  | nil => rfl
  | cons p ps ih =>
    cases ps with
    | nil => simp [joinSlash]
    | cons q qs => simpa [joinSlash] using ih

theorem length_joinSlash_append (xs ys : List Bytes) :
    (joinSlash xs).length ≤ (joinSlash (xs ++ ys)).length := by
  induction ys generalizing xs with
  | nil => simp
  | cons y ys ih =>
    have h := ih (xs ++ [y])
    rw [joinSlash_append_singleton, List.append_assoc] at h
    refine Nat.le_trans ?_ h
    split
    · next hx => simp [hx, joinSlash]
    · simp

/-- What a path begins with: a slash, or a dot that is followed by a slash or by nothing. -/
def lead : Bytes → Bytes
  | 0x2F :: _ => [slash]
  | [0x2E] | 0x2E :: 0x2F :: _ => [dot]
  | _ => []

def leadComponents (lead : Bytes) : List Component :=
  match lead with
  | [0x2F] => [.root]
  | [0x2E] => [.current]
  | _ => []

/-- The segments after the lead. -/
def segments (s : Bytes) : List Bytes :=
  splitSlash (s.drop (lead s).length)

/-- The segments that count for nothing. -/
def isSkipped (segment : Bytes) : Bool :=
  segment == [] || segment == [dot]

/-- A segment that counts, as a component. -/
def ofSegment (segment : Bytes) : Component :=
  if segment = [dot, dot] then .parent else .name segment

def components (path : Path) : List Component :=
  leadComponents (lead path)
    ++ ((segments path).filter (!isSkipped ·)).map ofSegment

/-- Segments without those at the end that count for nothing. -/
def trimEndSegments (segs : List Bytes) : List Bytes :=
  (segs.reverse.dropWhile isSkipped).reverse

/-- What remains of segments after `n` of those that count. -/
def dropCounted : Nat → List Bytes → List Bytes
  | 0, segs => segs
  | _ + 1, [] => []
  | n + 1, seg :: segs => if isSkipped seg then dropCounted (n + 1) segs else dropCounted n segs

/-- Whether a path names a place without regard to a working directory. -/
def isAbsolute (path : Path) : Bool :=
  path.head? == some slash

/-- The path that leads from `base` to where `path` leads from there. An absolute path replaces
the base, and a slash is put between the two unless the base ends in one or is empty. -/
def join (base path : Path) : Path :=
  if isAbsolute path then path
  else
    match base.getLast? with
    | none => path
    | some 0x2F => base ++ path
    | some _ => base ++ slash :: path

/-- The last component, if it is a name. -/
def fileName? (path : Path) : Option Bytes :=
  match (components path).getLast? with
  | some (.name text) => some text
  | _ => none

/-- The path without its last component; the root and the empty path have no parent. -/
def parent? (path : Path) : Option Path :=
  match trimEndSegments (segments path) with
  | [] => if lead path = [dot] then some [] else none
  | segs => some (lead path ++ joinSlash (trimEndSegments segs.dropLast))

theorem lead_append_segments (s : Bytes) : lead s ++ joinSlash (segments s) = s := by
  rw [segments, joinSlash_splitSlash]
  unfold lead
  split <;> rfl

theorem trimEndSegments_append (segs : List Bytes) :
    ∃ tail, trimEndSegments segs ++ tail = segs :=
  ⟨(segs.reverse.takeWhile isSkipped).reverse, by
    rw [trimEndSegments, ← List.reverse_append, List.takeWhile_append_dropWhile,
      List.reverse_reverse]⟩

theorem isSkipped_getLast_trimEndSegments {segs : List Bytes}
    (h : trimEndSegments segs ≠ []) : isSkipped ((trimEndSegments segs).getLast h) = false := by
  simp only [trimEndSegments, List.getLast_reverse]
  exact List.head_dropWhile_not isSkipped _

theorem length_parent?_lt {path parent : Path} (h : parent? path = some parent) :
    parent.length < path.length := by
  have hsplit := congrArg List.length (lead_append_segments path)
  obtain ⟨tail, htail⟩ := trimEndSegments_append (segments path)
  have hle := length_joinSlash_append (trimEndSegments (segments path)) tail
  rw [htail] at hle
  rw [List.length_append] at hsplit
  rw [parent?] at h
  split at h
  · split at h
    · next hlead =>
      simp only [Option.some.injEq] at h
      subst h
      rw [hlead] at hsplit
      simp only [List.length_cons, List.length_nil] at hsplit
      simp
      omega
    · simp at h
  · next segs hne =>
    simp only [Option.some.injEq] at h
    subst h
    rw [List.length_append]
    obtain ⟨tail', htail'⟩ := trimEndSegments_append
      (trimEndSegments (segments path)).dropLast
    have hle' := length_joinSlash_append
      (trimEndSegments (trimEndSegments (segments path)).dropLast) tail'
    rw [htail'] at hle'
    have hlast := isSkipped_getLast_trimEndSegments hne
    have hpos : 0 < ((trimEndSegments (segments path)).getLast hne).length := by
      apply List.length_pos_iff.2
      intro hnil
      rw [hnil] at hlast
      exact absurd hlast (by decide)
    have hjoin := congrArg List.length (joinSlash_append_singleton
      (trimEndSegments (segments path)).dropLast
      ((trimEndSegments (segments path)).getLast hne))
    rw [List.dropLast_concat_getLast] at hjoin
    have hlt : (joinSlash (trimEndSegments (segments path)).dropLast).length
        < (joinSlash (trimEndSegments (segments path))).length := by
      rw [hjoin]
      split
      · next hnil => rw [hnil]; simpa [joinSlash] using hpos
      · simp
    omega

/-- What remains of `path` below `root`, if the components of `root` are the first of its own. -/
def below? (root path : Path) : Option Path :=
  let rootComponents := components root
  if !rootComponents.isPrefixOf (components path) then none
  else if rootComponents.isEmpty then
    some (lead path ++ joinSlash (trimEndSegments (segments path)))
  else
    let counted := rootComponents.length - (lead path).length
    some (joinSlash (trimEndSegments ((dropCounted counted (segments path)).dropWhile isSkipped)))

/-- A directory as the prompt shows it: a tilde stands for the root that it lies below. -/
def abbreviate (root : Option Path) (dir : Path) : String :=
  match root.bind (below? · dir) with
  | none => Utf8.lossy dir
  | some [] => "~"
  | some rest => "~/" ++ Utf8.lossy rest

/-- The place that a target names for a shell that works in `cwd`. -/
def resolve (cwd : Path) (target : String) : Path :=
  join cwd (Utf8.encode target)

end Path
end LineShell
