import LineShell.Proofs.AppendLog
import LineShell.Proofs.Names

/-!
# Paths that go on from others

What a path looks like that goes on from another one: which names it is followed by, what its last
component is, and what its parent is. All of this depends on the path that goes on as long as that
has a component of its own.
-/
namespace LineShell.Path
variable {base path : Path}

theorem isAbsolute_append (h : isAbsolute base = true) (more : Bytes) :
    isAbsolute (base ++ more) = true := by
  rw [isAbsolute, beq_iff_eq] at h ⊢
  rw [List.head?_append, h, Option.some_or]

theorem exists_cons_of_isAbsolute (h : isAbsolute path = true) : ∃ bs, path = slash :: bs := by
  cases path with
  | nil => simp [isAbsolute] at h
  | cons b bs => exact ⟨bs, by simpa [isAbsolute] using h⟩

theorem isAbsolute_join_of_relative (hbase : base ≠ []) (h : isAbsolute path = false) :
    isAbsolute (join base path) = isAbsolute base := by
  cases habs : isAbsolute base with
  | true => exact isAbsolute_join habs path
  | false =>
    obtain ⟨b, bs, rfl⟩ := List.exists_cons_of_ne_nil hbase
    rw [join, h, if_neg Bool.false_ne_true]
    split
    · next hnil => simp at hnil
    · exact habs
    · exact habs

theorem components_ne_nil (h : isAbsolute path = true) : components path ≠ [] := by
  obtain ⟨bs, rfl⟩ := exists_cons_of_isAbsolute h
  simp [components, lead, leadComponents]

theorem join_of_isAbsolute (h : isAbsolute path = true) (base : Path) : join base path = path := by
  rw [join, if_pos h]

theorem ne_nil_of_isAbsolute (h : isAbsolute base = true) : base ≠ [] := by
  rintro rfl
  simp [isAbsolute] at h

theorem join_nil_left (h : isAbsolute path = false) : join [] path = path := by
  rw [join, h]
  rfl

theorem endsInSlash_join (hbase : base ≠ []) (h : isAbsolute path = false) :
    endsInSlash (join base path) = (path == [] || endsInSlash path) := by
  rw [endsInSlash, join_of_relative hbase h, endsInSlash, List.getLast?_append,
    List.getLast?_cons]
  cases hlast : path.getLast? with
  | none =>
    obtain rfl := List.getLast?_eq_none_iff.1 hlast
    rfl
  | some b =>
    have hne : path ≠ [] := by
      rintro rfl
      simp at hlast
    simp [hne]

theorem stem_join (hbase : base ≠ []) (h : isAbsolute path = false) (hpath : path ≠ []) :
    stem (join base path) = stem base ++ slash :: stem path := by
  rw [stem, endsInSlash_join hbase h, join_of_relative hbase h, stem.eq_1 path,
    beq_false_of_ne hpath, Bool.false_or]
  split
  · rw [List.dropLast_append_of_ne_nil (List.cons_ne_nil _ _), List.dropLast_cons_of_ne_nil hpath]
  · rfl

theorem stem_join_nil (hbase : base ≠ []) : stem (join base []) = stem base := by
  have hrelative : isAbsolute [] = false := rfl
  rw [stem, endsInSlash_join hbase hrelative, join_of_relative hbase hrelative]
  simp

theorem join_ne_nil (hbase : base ≠ []) (h : isAbsolute path = false) : join base path ≠ [] := by
  simp [join_of_relative hbase h]

/-- It makes no difference which of three paths are joined first. -/
theorem join_assoc (a b c : Path) : join (join a b) c = join a (join b c) := by
  cases hc : isAbsolute c with
  | true => rw [join_of_isAbsolute hc, join_of_isAbsolute hc, join_of_isAbsolute hc]
  | false =>
    by_cases hb : b = []
    · subst hb
      rw [join_nil_left hc]
      by_cases ha : a = []
      · subst ha
        rfl
      · have hab : join a [] ≠ [] := join_ne_nil ha rfl
        rw [join_of_relative hab hc, join_of_relative ha hc, stem_join_nil ha]
    have hbc := isAbsolute_join_of_relative hb hc
    cases habs : isAbsolute b with
    | true => rw [join_of_isAbsolute habs, join_of_isAbsolute (hbc.trans habs)]
    | false =>
      by_cases ha : a = []
      · rw [ha, join_nil_left habs, join_nil_left (hbc.trans habs)]
      · have hab := join_ne_nil ha habs
        rw [join_of_relative hab hc, join_of_relative ha (hbc.trans habs), join_of_relative hb hc,
          stem_join ha habs hb, List.append_assoc]
        rfl

/-! ## Components -/

/-- The pieces of a path that count as components. -/
def counted (s : Bytes) : List Bytes :=
  (splitSlash s).filter (!isSkipped ·)

theorem filter_segments (s : Bytes) : (segments s).filter (!isSkipped ·) = counted s := by
  rw [segments, counted, lead.eq_def]
  split
  · rfl
  · decide
  · rfl
  · rfl

theorem components_eq (path : Path) : components path =
    leadComponents (lead path) ++ (counted path).map ofSegment := by
  rw [components, filter_segments]

theorem counted_join (hbase : base ≠ []) (h : isAbsolute path = false) :
    counted (join base path) = counted (stem base) ++ counted path := by
  rw [counted, join_of_relative hbase h, splitSlash_append, List.filter_append]
  rfl

theorem counted_stem (base : Path) : counted (stem base) = counted base := by
  rw [stem]
  split
  · next hslash =>
    obtain ⟨front, hfront⟩ := List.getLast?_eq_some_iff.1 (beq_iff_eq.1 hslash)
    rw [hfront, List.dropLast_concat, counted, counted, splitSlash_append, List.filter_append]
    simp [splitSlash, isSkipped]
  · rfl

/-- A path has a component of its own, or it needs none since it starts at the root. -/
def Counts (path : Path) : Prop :=
  isAbsolute path = false → counted path ≠ []

theorem Counts.join (h : Counts path) (name : Path) : Counts (join path name) := by
  intro hjoin
  cases hname : isAbsolute name with
  | true =>
    rw [join_of_isAbsolute hname, hname] at hjoin
    contradiction
  | false =>
    by_cases hpath : path = []
    · subst hpath
      exact absurd rfl (h rfl)
    · rw [isAbsolute_join_of_relative hpath hname] at hjoin
      rw [counted_join hpath hname, counted_stem]
      exact List.append_ne_nil_of_left_ne_nil (h hjoin) _

/-- What counts as a component is a name that a path is followed by. -/
theorem names_ne_nil (h : counted path ≠ []) : names path ≠ [] := by
  obtain ⟨piece, hpiece⟩ := List.exists_mem_of_ne_nil _ h
  obtain ⟨hmem, hcounts⟩ := List.mem_filter.1 hpiece
  have hne : piece ≠ [] := by
    rintro rfl
    simp [isSkipped] at hcounts
  exact List.ne_nil_of_mem (List.mem_filter.2 ⟨hmem, by simpa using hne⟩)

theorem counted_ne_nil_of_fileName? {name : Name} (h : fileName? path = some name) :
    counted path ≠ [] := by
  intro hnil
  have hlead (l t : Bytes) : (leadComponents l).getLast? ≠ some (.name t) := by
    rw [leadComponents.eq_def]
    split <;> simp
  rw [fileName?, components_eq, hnil, List.map_nil, List.append_nil] at h
  split at h
  · next t hlast => exact absurd hlast (hlead _ t)
  · simp at h

/-- The last component of a path that goes on. -/
theorem fileName?_join (hbase : base ≠ []) (h : isAbsolute path = false)
    (hpath : counted path ≠ []) : fileName? (join base path) = fileName? path := by
  have hne : (counted path).map ofSegment ≠ [] := by simpa using hpath
  rw [fileName?, fileName?, components_eq, components_eq, counted_join hbase h, List.map_append,
    ← List.append_assoc]
  simp only [List.getLast?_append, List.getLast?_eq_some_getLast hne, Option.some_or]

/-! ## Parents -/

theorem trimEndSegments_eq_nil_iff {segs : List Bytes} :
    trimEndSegments segs = [] ↔ segs.filter (!isSkipped ·) = [] := by
  rw [trimEndSegments, List.reverse_eq_nil_iff, List.dropWhile_eq_nil_iff, List.filter_eq_nil_iff]
  simp

/-- What is trimmed off counts for nothing. -/
theorem exists_trimmed (segs : List Bytes) :
    ∃ tail, segs = trimEndSegments segs ++ tail ∧ ∀ seg ∈ tail, isSkipped seg = true := by
  refine ⟨(segs.reverse.takeWhile isSkipped).reverse, ?_, fun seg hseg => ?_⟩
  · rw [trimEndSegments, ← List.reverse_append, List.takeWhile_append_dropWhile,
      List.reverse_reverse]
  · exact List.mem_takeWhile_imp (List.mem_reverse.1 hseg)

theorem trimEndSegments_append_of_ne_nil (xs : List Bytes) {ys : List Bytes}
    (h : trimEndSegments ys ≠ []) : trimEndSegments (xs ++ ys) = xs ++ trimEndSegments ys := by
  rw [trimEndSegments] at h
  rw [trimEndSegments, List.reverse_append, List.dropWhile_append, if_neg (by simpa using h),
    List.reverse_append, List.reverse_reverse, trimEndSegments]

theorem trimEndSegments_append_of_eq_nil (xs : List Bytes) {ys : List Bytes}
    (h : trimEndSegments ys = []) : trimEndSegments (xs ++ ys) = trimEndSegments xs := by
  rw [trimEndSegments] at h
  rw [trimEndSegments, List.reverse_append, List.dropWhile_append, if_pos (by simpa using h),
    trimEndSegments]

theorem joinSlash_append {xs ys : List Bytes} (hxs : xs ≠ []) (hys : ys ≠ []) :
    joinSlash (xs ++ ys) = joinSlash xs ++ slash :: joinSlash ys := by
  induction xs with
  | nil => contradiction
  | cons x xs ih =>
    by_cases hnil : xs = []
    · rw [hnil]
      exact joinSlash_cons x hys
    · rw [List.cons_append, joinSlash_cons x (by simp [hnil]), ih hnil, joinSlash_cons x hnil,
        List.append_assoc]
      rfl

/-- The segments of a directory from which paths go on. -/
def dirSegments (base : Path) : List Bytes :=
  if stem base = [] then [] else splitSlash (stem base).tail

theorem stem_eq_of_isAbsolute (h : isAbsolute base = true) :
    stem base = [] ∨ stem base = slash :: (stem base).tail := by
  obtain ⟨cs, hlist⟩ : ∃ cs, base = slash :: cs := by
    cases hlist : base with
    | nil => simp [isAbsolute, hlist] at h
    | cons c cs => exact ⟨cs, by simpa [isAbsolute, hlist] using h⟩
  rw [stem, hlist]
  cases cs with
  | nil => split <;> simp_all [endsInSlash]
  | cons d ds => split <;> simp

theorem lead_join (hbase : isAbsolute base = true) (h : isAbsolute path = false) :
    lead (join base path) = [slash] := by
  rw [join_of_relative (ne_nil_of_isAbsolute hbase) h]
  obtain hnil | hcons := stem_eq_of_isAbsolute hbase
  · rw [hnil]
    rfl
  · rw [hcons]
    rfl

/-- The segments of a path that goes on. -/
theorem segments_join (hbase : isAbsolute base = true) (h : isAbsolute path = false) :
    segments (join base path) = dirSegments base ++ splitSlash path := by
  rw [segments, lead_join hbase h, join_of_relative (ne_nil_of_isAbsolute hbase) h, dirSegments]
  obtain hnil | hcons := stem_eq_of_isAbsolute hbase
  · rw [hnil]
    rfl
  · rw [hcons, if_neg (by simp)]
    exact splitSlash_append _ _

/-- A path that goes on is made of its segments. -/
theorem join_eq_joinSlash (hbase : isAbsolute base = true) (h : isAbsolute path = false) :
    join base path = slash :: joinSlash (dirSegments base ++ splitSlash path) := by
  rw [← lead_append_segments (join base path), lead_join hbase h, segments_join hbase h]
  rfl

theorem trimEndSegments_isPrefix (segs : List Bytes) : trimEndSegments segs <+: segs := by
  obtain ⟨tail, htail⟩ := trimEndSegments_append segs
  exact ⟨tail, htail⟩

theorem joinSlash_isPrefix {xs ys : List Bytes} (h : xs <+: ys) :
    joinSlash xs <+: joinSlash ys := by
  obtain ⟨rest, rfl⟩ := h
  by_cases hxs : xs = []
  · rw [hxs]
    exact List.nil_prefix
  · by_cases hrest : rest = []
    · simp [hrest]
    · rw [joinSlash_append hxs hrest]
      exact List.prefix_append _ _

/-- The parent of a path is what it begins with. -/
theorem isPrefix_of_parent? {parent : Path} (h : parent? path = some parent) :
    parent <+: path := by
  rw [parent?] at h
  split at h
  · split_ifs at h
    obtain rfl := Option.some.inj h
    exact List.nil_prefix
  · obtain rfl := Option.some.inj h
    nth_rewrite 3 [← lead_append_segments path]
    refine (List.prefix_append_right_inj _).2 (joinSlash_isPrefix ?_)
    exact (trimEndSegments_isPrefix _).trans
      ((List.dropLast_prefix _).trans (trimEndSegments_isPrefix _))

/-- A directory without what counts for nothing at its end. -/
def trunk (base : Path) : Path :=
  slash :: joinSlash (trimEndSegments (dirSegments base))

/-- The segments of a path without its last component. -/
def frontSegments (path : Path) : List Bytes :=
  trimEndSegments (trimEndSegments (splitSlash path)).dropLast

/-- What is left of a path without its last component, if it has another. -/
def front? (path : Path) : Option Path :=
  if frontSegments path = [] then none else some (joinSlash (frontSegments path))

theorem frontSegments_isPrefix (path : Path) : frontSegments path <+: splitSlash path :=
  (trimEndSegments_isPrefix _).trans ((List.dropLast_prefix _).trans (trimEndSegments_isPrefix _))

theorem splitSlash_of_front? {front : Path} (h : front? path = some front) :
    splitSlash front = frontSegments path ∧ frontSegments path ≠ [] := by
  rw [front?] at h
  split_ifs at h with hne
  obtain rfl := Option.some.inj h
  exact ⟨splitSlash_joinSlash hne fun piece hpiece =>
    notMem_of_mem_splitSlash ((frontSegments_isPrefix path).subset hpiece), hne⟩

theorem counted_of_front? {front : Path} (h : front? path = some front) :
    counted front ≠ [] := by
  obtain ⟨hsplit, hne⟩ := splitSlash_of_front? h
  have hlast : isSkipped ((frontSegments path).getLast hne) = false :=
    isSkipped_getLast_trimEndSegments hne
  rw [counted, hsplit]
  exact List.ne_nil_of_mem (List.mem_filter.2 ⟨List.getLast_mem hne, by simpa using hlast⟩)

/-- A path that starts with a slash has an empty piece before it. -/
theorem isAbsolute_iff : isAbsolute path = true ↔
    ∃ rest, splitSlash path = [] :: rest ∧ rest ≠ [] := by
  rw [isAbsolute, beq_iff_eq]
  cases hlist : path with
  | nil => simp [splitSlash]
  | cons c cs =>
    by_cases hc : c = slash
    · subst hc
      simp [splitSlash, splitSlash_ne_nil]
    · obtain ⟨piece, pieces, hpiece⟩ := List.exists_cons_of_ne_nil (splitSlash_ne_nil cs)
      simp [splitSlash, hpiece, hc]

theorem isAbsolute_of_front? {front : Path} (hpath : isAbsolute path = false)
    (h : front? path = some front) : isAbsolute front = false := by
  obtain ⟨hsplit, hne⟩ := splitSlash_of_front? h
  by_contra habs
  obtain ⟨rest, hfront, hrest⟩ := isAbsolute_iff.1 (by simpa using habs)
  obtain ⟨more, hmore⟩ := frontSegments_isPrefix path
  rw [← hsplit, hfront, List.cons_append] at hmore
  have habs' := isAbsolute_iff.2 ⟨rest ++ more, hmore.symm, by simp [hrest]⟩
  simp [hpath] at habs'

/-- The parent of a path that goes on is another such path, or the directory itself. -/
theorem parent?_join (hbase : isAbsolute base = true) (h : isAbsolute path = false)
    (hpath : counted path ≠ []) :
    parent? (join base path) = some ((front? path).elim (trunk base) (join base)) := by
  have hne : trimEndSegments (splitSlash path) ≠ [] :=
    mt trimEndSegments_eq_nil_iff.1 hpath
  rw [parent?, segments_join hbase h, lead_join hbase h, trimEndSegments_append_of_ne_nil _ hne]
  split
  · next hnil => simp [hne] at hnil
  · rw [List.dropLast_append_of_ne_nil hne]
    cases hfront : front? path with
    | none =>
      have hnil : frontSegments path = [] := by
        rw [front?] at hfront
        split_ifs at hfront with hnil
        exact hnil
      rw [trimEndSegments_append_of_eq_nil _ hnil]
      rfl
    | some front =>
      obtain ⟨hsplit, hne'⟩ := splitSlash_of_front? hfront
      rw [trimEndSegments_append_of_ne_nil _ hne', Option.elim_some, Option.some.injEq,
        join_eq_joinSlash hbase (isAbsolute_of_front? h hfront), hsplit]
      rfl

/-- The names that pieces of a path stand for. -/
theorem names_eq_dirSegments (h : isAbsolute base = true) :
    names base = (dirSegments base).filter (· ≠ []) := by
  rw [names_eq_of_stem, dirSegments]
  obtain hnil | hcons := stem_eq_of_isAbsolute h
  · rw [hnil]
    rfl
  · rw [hcons]
    rfl

theorem notMem_of_mem_dirSegments {piece : Bytes} (h : piece ∈ dirSegments base) :
    slash ∉ piece := by
  rw [dirSegments] at h
  split_ifs at h
  · simp at h
  · exact notMem_of_mem_splitSlash h

theorem names_trunk (base : Path) : names (trunk base) =
    (trimEndSegments (dirSegments base)).filter (· ≠ []) := by
  rw [names, trunk, splitSlash]
  by_cases hnil : trimEndSegments (dirSegments base) = []
  · rw [hnil]
    rfl
  · rw [splitSlash_joinSlash hnil fun piece hpiece =>
      notMem_of_mem_dirSegments ((trimEndSegments_isPrefix _).subset hpiece)]
    rfl

/-- A path is followed by the names of its trunk, and then stays where it is. -/
theorem names_eq_trunk (h : isAbsolute base = true) :
    ∃ dots, names base = names (trunk base) ++ dots ∧ ∀ name ∈ dots, name = [dot] := by
  obtain ⟨tail, hsegs, htail⟩ := exists_trimmed (dirSegments base)
  refine ⟨(tail.filter (· ≠ [])), ?_, fun name hname => ?_⟩
  · rw [names_trunk, names_eq_dirSegments h, ← List.filter_append, ← hsegs]
  · obtain ⟨hmem, hne⟩ := List.mem_filter.1 hname
    have hskipped := htail name hmem
    simp only [isSkipped, Bool.or_eq_true, beq_iff_eq] at hskipped
    exact hskipped.resolve_left (by simpa using hne)

end LineShell.Path
