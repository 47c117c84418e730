import LineShell.Memory.Usage
import LineShell.Proofs.Decimal
import Mathlib.Data.List.Infix
import Mathlib.Data.List.Perm.Basic

/-!
# Figures of the memory

A memory table is read by the first line of each key, wherever it stands; a line of no key counts
for nothing. What is free counts only if the table tells nothing that is available. Whatever the
table tells, what is used and what is available add up to a word, so a share of their sum can be
taken.
-/
namespace LineShell.Usage
variable {table table' key : String} {line : List Char} {bytes : UInt64} {u : Usage}

/-! ## Figures that fit together -/

theorem toNat_saturatingSub (a b : UInt64) : (saturatingSub a b).toNat = a.toNat - b.toNat := by
  rw [saturatingSub]
  split
  · next hle => exact UInt64.toNat_sub_of_le _ _ hle
  · next hlt =>
    rw [UInt64.le_iff_toNat_le] at hlt
    simp only [UInt64.toNat_zero]
    omega

/-- The figures of a memory: what is used is a part of the whole, and together with what is
available it is the larger one of the whole and that, so the sum is no more than a word can hold. -/
structure Consistent (u : Usage) : Prop where
  used_le_total : u.used ≤ u.total
  sum_eq : u.used.toNat + u.available.toNat = max u.total.toNat u.available.toNat
  toNat_add : (u.used + u.available).toNat = u.used.toNat + u.available.toNat
  sum_eq_zero_iff : u.used + u.available = 0 ↔ u.total = 0 ∧ u.available = 0
  used_le_sum : u.used ≤ u.used + u.available
  /-- The share is taken of the larger one of the two. -/
  percent_eq : u.percent = if u.total = 0 ∧ u.available = 0 then ⟨0, 0⟩ else
    ((Binary.ofNat u.used.toNat).div
      (Binary.ofNat (max u.total.toNat u.available.toNat))).mulNat 100

/-- What is left of the whole when what is available is taken off fits together with both. -/
theorem consistent_saturatingSub (total available : UInt64) :
    Consistent ⟨total, saturatingSub total available, available⟩ := by
  have hused := toNat_saturatingSub total available
  have hsum : (saturatingSub total available).toNat + available.toNat =
      max total.toNat available.toNat := by omega
  have hadd : (saturatingSub total available + available).toNat =
      (saturatingSub total available).toNat + available.toNat := by
    have htotal := total.toNat_lt
    have havailable := available.toNat_lt
    rw [UInt64.toNat_add]
    exact Nat.mod_eq_of_lt (by omega)
  have hzero : saturatingSub total available + available = 0 ↔ total = 0 ∧ available = 0 := by
    rw [← UInt64.toNat_inj, ← UInt64.toNat_inj, ← UInt64.toNat_inj, hadd, UInt64.toNat_zero]
    omega
  refine ⟨?_, hsum, hadd, hzero, ?_, ?_⟩
  · rw [UInt64.le_iff_toNat_le]
    dsimp only
    omega
  · rw [UInt64.le_iff_toNat_le]
    dsimp only
    omega
  · simp only [percent, hzero, hadd, hsum]

/-! ## Lines and their keys -/

/-- What stands between the line feeds of a table. -/
def rows (table : String) : List (List Char) :=
  table.toList.splitOn '\n'

def isOf (key : String) (line : List Char) : Bool :=
  (key.toList ++ [':']).isPrefixOf line

/-- The keys whose lines count. -/
def keys : List String :=
  ["MemTotal", "MemAvailable", "MemFree"]

def isKeyed (line : List Char) : Bool :=
  keys.any (isOf · line)

/-- The first line of a key. -/
def rowOf? (table key : String) : Option (List Char) :=
  (rows table).find? (isOf key)

/-- The numerals of 64-bit words: digits, with a plus sign in front if one likes. -/
def IsWord (field : List Char) (n : ℕ) : Prop :=
  (IsDecimal field n ∨ ∃ digits, field = '+' :: digits ∧ IsDecimal digits n) ∧ n < UInt64.size

/-- The first line of a key has the numeral of a word for its first field, and as many units make up
a number of bytes. -/
def Tells (table key : String) (bytes : UInt64) : Prop :=
  ∃ rest n, rowOf? table key = some (key.toList ++ ':' :: rest) ∧ IsWord (firstField rest) n ∧
    bytes = UInt64.ofNat (n * 1024)

theorem isOf_iff : isOf key line = true ↔ ∃ rest, line = key.toList ++ ':' :: rest := by
  rw [isOf, List.isPrefixOf_iff_prefix]
  exact exists_congr fun rest => by simp [eq_comm]

theorem afterKey?_eq_some_iff {rest : List Char} :
    afterKey? key line = some rest ↔ line = key.toList ++ ':' :: rest := by
  have happ (rest : List Char) : key.toList ++ ':' :: rest = key.toList ++ [':'] ++ rest := by simp
  rw [happ, afterKey?, Option.ite_none_right_eq_some, List.isPrefixOf_iff_prefix, Option.some.injEq]
  constructor
  · rintro ⟨⟨tail, rfl⟩, rfl⟩
    rw [List.drop_left]
  · rintro rfl
    exact ⟨List.prefix_append _ _, List.drop_left⟩

theorem findSome?_afterKey?_eq_some_iff {rest : List Char} (ls : List (List Char)) :
    ls.findSome? (afterKey? key) = some rest ↔
      ls.find? (isOf key) = some (key.toList ++ ':' :: rest) := by
  induction ls with
  | nil => simp
  | cons line ls ih =>
    by_cases hkey : isOf key line = true
    · obtain ⟨rest', hline⟩ := isOf_iff.1 hkey
      rw [List.findSome?_cons_of_isSome (by simp [afterKey?_eq_some_iff.2 hline]),
        List.find?_cons_of_pos hkey, afterKey?_eq_some_iff, Option.some.injEq]
    · have hnone : afterKey? key line = none := if_neg hkey
      rw [List.findSome?_cons_of_isNone (by simp [hnone]), List.find?_cons_of_neg hkey, ih]

/-! ## The ends of lines -/

def withoutReturn (line : List Char) : List Char :=
  if line.getLast? = some '\r' then line.dropLast else line

def fieldOf? (key : String) (line : List Char) : Option (List Char) :=
  (afterKey? key line).map firstField

theorem firstField_append_return (s : List Char) : firstField (s ++ ['\r']) = firstField s := by
  have hblank : Text.isBlank '\r' = true := by decide
  rw [firstField, firstField, List.dropWhile_append]
  split
  · next hempty => simp [List.isEmpty_iff.1 hempty, hblank]
  · rw [List.takeWhile_append]
    split
    · next hall =>
      rw [(List.takeWhile_prefix _).eq_of_length hall,
        List.takeWhile_cons_of_neg (by simp [hblank]), List.append_nil]
    · rfl

/-- A carriage return at the end of a line is no part of a field. -/
theorem fieldOf?_withoutReturn (key : String) (line : List Char) :
    fieldOf? key (withoutReturn line) = fieldOf? key line := by
  rw [withoutReturn]
  split
  · next hreturn =>
    obtain ⟨front, rfl⟩ := List.getLast?_eq_some_iff.1 hreturn
    rw [List.dropLast_concat]
    by_cases hkey : isOf key front = true
    · obtain ⟨rest, rfl⟩ := isOf_iff.1 hkey
      have hlonger : key.toList ++ ':' :: rest ++ ['\r'] =
          key.toList ++ ':' :: (rest ++ ['\r']) := by simp
      rw [fieldOf?, fieldOf?, afterKey?_eq_some_iff.2 rfl, afterKey?_eq_some_iff.2 hlonger,
        Option.map_some, Option.map_some, firstField_append_return]
    · have hlonger : ¬ isOf key (front ++ ['\r']) = true := by
        rw [isOf, List.isPrefixOf_iff_prefix] at hkey ⊢
        rw [List.prefix_concat_iff]
        rintro (heq | hbegins)
        · have hlast := congrArg List.getLast? heq
          simp at hlast
        · exact hkey hbegins
      have hnone : afterKey? key front = none := if_neg hkey
      have hnone' : afterKey? key (front ++ ['\r']) = none := if_neg hlonger
      rw [fieldOf?, fieldOf?, hnone, hnone']
  · rfl

/-- How the lines of a table end makes no difference to its fields. -/
theorem findSome?_fieldOf?_lines (table key : String) :
    (lines table.toList).findSome? (fieldOf? key) = (rows table).findSome? (fieldOf? key) := by
  have hends : fieldOf? key ∘ withoutReturn = fieldOf? key :=
    funext fun line => fieldOf?_withoutReturn key line
  have hempty : fieldOf? key [] = none := by
    have hnone : afterKey? key [] = none := by
      simp [Option.eq_none_iff_forall_ne_some, afterKey?_eq_some_iff]
    rw [fieldOf?, hnone, Option.map_none]
  obtain ⟨closed, last, hrows⟩ := (List.eq_nil_or_concat (rows table)).resolve_left
    (List.splitOn_ne_nil '\n' table.toList)
  rw [List.concat_eq_append] at hrows
  have hclosed : (closed.map withoutReturn).findSome? (fieldOf? key) =
      closed.findSome? (fieldOf? key) := by
    rw [List.findSome?_map, hends]
  have hlines : lines table.toList =
      closed.map withoutReturn ++ if last = [] then [] else [last] := by
    rw [rows] at hrows
    cases last <;> simp [lines, hrows, withoutReturn]
  rw [hlines, hrows, List.findSome?_append, List.findSome?_append, hclosed]
  split
  · next hlast => simp [hlast, hempty]
  · rfl

/-- A figure is read off the first field of its key, in whatever way the lines end. -/
theorem figure?_eq_bind (table key : String) : figure? table.toList key =
    ((rows table).findSome? (afterKey? key)).bind fun rest =>
      (Numeral.read 10 (Nat.pow 2 64) (firstField rest)).toOption.map (·.toUInt64 * 1024) := by
  have hfields : ((lines table.toList).findSome? (afterKey? key)).map firstField =
      ((rows table).findSome? (afterKey? key)).map firstField := by
    rw [List.map_findSome?, List.map_findSome?]
    exact findSome?_fieldOf?_lines table key
  have hbind (found : Option (List Char)) :
      (found.bind fun rest =>
        (Numeral.read 10 (Nat.pow 2 64) (firstField rest)).toOption.map (·.toUInt64 * 1024)) =
      (found.map firstField).bind fun field =>
        (Numeral.read 10 (Nat.pow 2 64) field).toOption.map (·.toUInt64 * 1024) := by
    rw [Option.bind_map]
    rfl
  rw [hbind, ← hfields, ← hbind]
  simp only [figure?, Option.map_eq_bind]
  rfl

/-- A figure is what the first line of its key tells. -/
theorem figure?_eq_some_iff : figure? table.toList key = some bytes ↔ Tells table key bytes := by
  have hread (rest : List Char) (n : ℕ) :
      (Numeral.read 10 (Nat.pow 2 64) (firstField rest)).toOption = some n ↔
        IsWord (firstField rest) n := by
    have hsize : UInt64.size = Nat.pow 2 64 := rfl
    rw [IsWord, hsize, ← Numeral.read_ten_eq_ok_iff (by decide)]
    cases Numeral.read 10 (Nat.pow 2 64) (firstField rest) <;> simp [Except.toOption]
  have hbytes (n : ℕ) : n.toUInt64 * 1024 = UInt64.ofNat (n * 1024) := by
    rw [UInt64.ofNat_mul]
    rfl
  simp only [figure?_eq_bind, Option.bind_eq_some_iff, Option.map_eq_some_iff, hread,
    findSome?_afterKey?_eq_some_iff, hbytes, ← exists_and_left, @eq_comm _ bytes, Tells, rowOf?]

theorem figure?_eq_none_iff :
    figure? table.toList key = none ↔ ∀ bytes, ¬ Tells table key bytes := by
  simp only [← figure?_eq_some_iff, Option.eq_none_iff_forall_ne_some]

/-- A figure depends on the first line of its key alone. -/
theorem figure?_congr (h : rowOf? table' key = rowOf? table key) :
    figure? table'.toList key = figure? table.toList key := by
  ext bytes
  rw [figure?_eq_some_iff, figure?_eq_some_iff, Tells, Tells, h]

/-! ## Lines that do not count -/

theorem find?_filter_isKeyed (hkey : key ∈ keys) (ls : List (List Char)) :
    (ls.filter isKeyed).find? (isOf key) = ls.find? (isOf key) := by
  have hsame : (fun line => decide (isKeyed line = true ∧ isOf key line = true)) = isOf key := by
    funext line
    cases hof : isOf key line with
    | false => simp
    | true =>
      have hkeyed : isKeyed line = true := List.any_eq_true.2 ⟨key, hkey, hof⟩
      simp [hkeyed]
  rw [List.find?_filter, hsame]

/-- What is found first does not depend on the order if there is no more than one to be found. -/
theorem find?_eq_of_perm {α : Type} {p : α → Bool} {xs ys : List α} (h : xs.Perm ys)
    (hone : xs.countP p ≤ 1) : xs.find? p = ys.find? p := by
  have hfilter : (xs.filter p).Perm (ys.filter p) := h.filter p
  rw [List.countP_eq_length_filter] at hone
  rw [← List.head?_filter, ← List.head?_filter]
  match hxs : xs.filter p with
  | [] =>
    rw [hxs] at hfilter
    rw [hfilter.symm.eq_nil]
  | [x] =>
    rw [hxs] at hfilter
    rw [List.perm_singleton.1 hfilter.symm]
  | x :: y :: more =>
    rw [hxs] at hone
    simp at hone

/-! ## What is read off a table -/

theorem ofTable?_eq_some_iff : ofTable? table = some u ↔
    ∃ total available, Tells table "MemTotal" total ∧
      (Tells table "MemAvailable" available ∨
        (∀ bytes, ¬ Tells table "MemAvailable" bytes) ∧
          Tells table "MemFree" available) ∧
      u = ⟨total, saturatingSub total available, available⟩ := by
  simp only [ofTable?, Option.bind_eq_bind, Option.bind_eq_some_iff, Option.or_eq_some_iff,
    figure?_eq_some_iff, figure?_eq_none_iff, Option.pure_def, Option.some.injEq, @eq_comm _ u,
    ← exists_and_left]

theorem ofTable?_eq_none_iff : ofTable? table = none ↔
    (∀ bytes, ¬ Tells table "MemTotal" bytes) ∨
      (∀ bytes, ¬ Tells table "MemAvailable" bytes) ∧
        ∀ bytes, ¬ Tells table "MemFree" bytes := by
  simp only [← figure?_eq_none_iff, ← Option.or_eq_none_iff]
  rw [ofTable?]
  cases figure? table.toList "MemTotal" with
  | none => simp
  | some total =>
    cases (figure? table.toList "MemAvailable").or (figure? table.toList "MemFree") <;> simp

/-- What is free makes a difference only if nothing is told of what is available. -/
theorem ofTable?_congr
    (htotal : rowOf? table' "MemTotal" = rowOf? table "MemTotal")
    (havailable : rowOf? table' "MemAvailable" = rowOf? table "MemAvailable")
    (hfree : (∀ bytes, ¬ Tells table "MemAvailable" bytes) →
      rowOf? table' "MemFree" = rowOf? table "MemFree") :
    ofTable? table' = ofTable? table := by
  rw [ofTable?, ofTable?, figure?_congr htotal, figure?_congr havailable]
  cases htells : figure? table.toList "MemAvailable" with
  | some available => rfl
  | none => rw [figure?_congr (hfree (figure?_eq_none_iff.1 htells))]

theorem ofTable?_of_rowOf?
    (h : ∀ key ∈ keys, rowOf? table' key = rowOf? table key) :
    ofTable? table' = ofTable? table :=
  ofTable?_congr (h "MemTotal" (by simp [keys])) (h "MemAvailable" (by simp [keys]))
    fun _ => h "MemFree" (by simp [keys])

theorem ofTable?_of_filter_eq
    (h : (rows table').filter isKeyed = (rows table).filter isKeyed) :
    ofTable? table' = ofTable? table := by
  refine ofTable?_of_rowOf? fun key hkey => ?_
  rw [rowOf?, rowOf?, ← find?_filter_isKeyed hkey, h, find?_filter_isKeyed hkey]

theorem ofTable?_of_perm
    (h : ((rows table').filter isKeyed).Perm ((rows table).filter isKeyed))
    (hone : ∀ key ∈ keys, (rows table).countP (isOf key) ≤ 1) :
    ofTable? table' = ofTable? table := by
  refine ofTable?_of_rowOf? fun key hkey => ?_
  have hcount : ((rows table).filter isKeyed).countP (isOf key) ≤ 1 :=
    (List.filter_sublist.countP_le).trans (hone key hkey)
  rw [rowOf?, rowOf?, ← find?_filter_isKeyed hkey, ← find?_filter_isKeyed hkey (rows table)]
  exact (find?_eq_of_perm h.symm hcount).symm

/-- What is read off a table, and which of its lines it depends on. -/
structure ReadsTable (table : String) (result : Option Usage) : Prop where
  consistent : ∀ u, result = some u → u.Consistent
  eq_some_iff : ∀ u, result = some u ↔ ∃ total available, Tells table "MemTotal" total ∧
    (Tells table "MemAvailable" available ∨
      (∀ bytes, ¬ Tells table "MemAvailable" bytes) ∧
        Tells table "MemFree" available) ∧
    u = ⟨total, saturatingSub total available, available⟩
  eq_none_iff : result = none ↔ (∀ bytes, ¬ Tells table "MemTotal" bytes) ∨
    (∀ bytes, ¬ Tells table "MemAvailable" bytes) ∧
      ∀ bytes, ¬ Tells table "MemFree" bytes
  /-- The first lines of the keys decide, that of what is free only if it is needed. -/
  first_lines : ∀ table' : String,
    rowOf? table' "MemTotal" = rowOf? table "MemTotal" →
    rowOf? table' "MemAvailable" = rowOf? table "MemAvailable" →
    ((∀ bytes, ¬ Tells table "MemAvailable" bytes) →
      rowOf? table' "MemFree" = rowOf? table "MemFree") →
    ofTable? table' = result
  /-- Lines of other keys may be put in, left out and moved about. -/
  other_lines : ∀ table' : String,
    (rows table').filter isKeyed = (rows table).filter isKeyed →
    ofTable? table' = result
  /-- The lines of the keys may change places if there is one of each. -/
  any_order : ∀ table' : String,
    ((rows table').filter isKeyed).Perm ((rows table).filter isKeyed) →
    (∀ key ∈ keys, (rows table).countP (isOf key) ≤ 1) → ofTable? table' = result

/-- A table is read by the first lines of its keys in whatever order they stand, and what is read
fits together. -/
theorem ofTable?_reads_first_lines (table : String) : ReadsTable table (ofTable? table) where
  consistent u hu := by
    obtain ⟨total, available, -, -, rfl⟩ := ofTable?_eq_some_iff.1 hu
    exact consistent_saturatingSub total available
  eq_some_iff _ := ofTable?_eq_some_iff
  eq_none_iff := ofTable?_eq_none_iff
  first_lines _ := ofTable?_congr
  other_lines _ := ofTable?_of_filter_eq
  any_order _ := ofTable?_of_perm

/-- Lines in another order, one more of another key, and a total that is too large for a word. -/
theorem ofTable?_reads_shuffled :
    let table := "MemTotal: 18014398509481992 kB\nMemAvailable: none\nMemFree: +3 kB\n"
    let shuffled := "MemFree: +3 kB\nMemTotalX: 1 kB\nMemAvailable: none\n" ++
      "MemTotal: 18014398509481992 kB"
    ofTable? table = some ⟨8192, 5120, 3072⟩ ∧ Consistent ⟨8192, 5120, 3072⟩ ∧
      ofTable? shuffled = some ⟨8192, 5120, 3072⟩ := by
  intro table shuffled
  have htable : ofTable? table = some ⟨8192, 5120, 3072⟩ := by decide +kernel
  have hperm : ((rows shuffled).filter isKeyed).Perm
      ((rows table).filter isKeyed) := by decide +kernel
  have hone : ∀ key ∈ keys, (rows table).countP (isOf key) ≤ 1 := by decide +kernel
  have hreads := ofTable?_reads_first_lines table
  rw [htable] at hreads
  exact ⟨htable, hreads.consistent _ rfl, hreads.any_order shuffled hperm hone⟩

end LineShell.Usage
