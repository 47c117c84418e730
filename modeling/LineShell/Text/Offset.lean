/-!
# Byte offsets

Positions in a text are counted in bytes of its UTF-8 form. A position is a boundary when no
character straddles it, and a slice between two boundaries is a run of whole characters.
-/
namespace LineShell.Text

def byteLength : List Char → Nat
  | [] => 0
  | c :: cs => c.utf8Size + byteLength cs

@[simp] theorem byteLength_nil : byteLength [] = 0 := rfl

@[simp] theorem byteLength_cons (c : Char) (cs : List Char) :
    byteLength (c :: cs) = c.utf8Size + byteLength cs := rfl

@[simp] theorem byteLength_append (s t : List Char) :
    byteLength (s ++ t) = byteLength s + byteLength t := by
  induction s with
  | nil => simp
  | cons c cs ih => simp [ih, Nat.add_assoc]

/-- What remains of a text after the characters that start before byte `n`. -/
def dropBytes : Nat → List Char → List Char
  | 0, s => s
  | _ + 1, [] => []
  | n + 1, c :: cs => dropBytes (n + 1 - c.utf8Size) cs

/-- The characters of a text that start before byte `n`. -/
def takeBytes : Nat → List Char → List Char
  | 0, _ => []
  | _ + 1, [] => []
  | n + 1, c :: cs => c :: takeBytes (n + 1 - c.utf8Size) cs

@[simp] theorem takeBytes_zero (s : List Char) : takeBytes 0 s = [] := by
  cases s <;> rfl

@[simp] theorem dropBytes_zero (s : List Char) : dropBytes 0 s = s := by
  cases s <;> rfl

theorem takeBytes_append_dropBytes (n : Nat) (s : List Char) :
    takeBytes n s ++ dropBytes n s = s := by
  induction s generalizing n with
  | nil => cases n <;> rfl
  | cons c cs ih =>
    cases n with
    | zero => rfl
    | succ n => simp [takeBytes, dropBytes, ih]

@[simp] theorem dropBytes_byteLength_append (s t : List Char) :
    dropBytes (byteLength s) (s ++ t) = t := by
  induction s with
  | nil => simp
  | cons c cs ih =>
    have hc : 0 < c.utf8Size := c.utf8Size_pos
    obtain ⟨k, hk⟩ : ∃ k, c.utf8Size = k + 1 := ⟨c.utf8Size - 1, by omega⟩
    simp only [byteLength_cons, List.cons_append]
    rw [show c.utf8Size + byteLength cs = (k + byteLength cs) + 1 by omega, dropBytes,
      show k + byteLength cs + 1 - c.utf8Size = byteLength cs by omega, ih]

@[simp] theorem takeBytes_byteLength_append (s t : List Char) :
    takeBytes (byteLength s) (s ++ t) = s := by
  have h := takeBytes_append_dropBytes (byteLength s) (s ++ t)
  rw [dropBytes_byteLength_append] at h
  exact List.append_cancel_right h

def slice (s : List Char) (start stop : Nat) : List Char :=
  takeBytes (stop - start) (dropBytes start s)

/-- The byte offset of the first character that is `c`. -/
def offsetOf? (c : Char) : List Char → Option Nat
  | [] => none
  | d :: ds => if d = c then some 0 else (offsetOf? c ds).map (d.utf8Size + ·)

/-- The byte offset of the last character that is `c`. -/
def lastOffsetOf? (c : Char) : List Char → Option Nat
  | [] => none
  | d :: ds =>
    match lastOffsetOf? c ds with
    | some n => some (d.utf8Size + n)
    | none => if d = c then some 0 else none

/-- Byte `n` of a text is where a character starts, or its end. -/
def IsBoundary (s : List Char) (n : Nat) : Prop :=
  ∃ t, t <+: s ∧ byteLength t = n

/-- A slice between the ends of two adjacent pieces is the second piece. -/
theorem slice_append (s t u : List Char) :
    slice (s ++ t ++ u) (byteLength s) (byteLength s + byteLength t) = t := by
  simp [slice]

end LineShell.Text
