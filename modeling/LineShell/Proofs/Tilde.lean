import LineShell.Proofs.Joining
import LineShell.Proofs.LossyText

/-!
# The directory in the prompt

A directory is shown with a tilde if the components of the root are the first of its own, however
the two are spelled, and as it is spelled otherwise. What stands behind the tilde leads from the
root to the directory, so the directory can be read back from what is shown, as long as that is
text: no two places look alike then. Where bytes had to be replaced, places can look alike.
-/
namespace LineShell.Path
variable {root dir rest : Path}

/-! ## Segments that count -/

theorem filter_dropWhile_isSkipped (segs : List Bytes) :
    (segs.dropWhile isSkipped).filter (!isSkipped ·) = segs.filter (!isSkipped ·) := by
  induction segs with
  | nil => rfl
  | cons seg segs ih =>
    cases hseg : isSkipped seg with
    | true => simpa [hseg] using ih
    | false => simp [hseg]

theorem filter_trimEndSegments (segs : List Bytes) :
    (trimEndSegments segs).filter (!isSkipped ·) = segs.filter (!isSkipped ·) := by
  rw [trimEndSegments, List.filter_reverse, filter_dropWhile_isSkipped, List.filter_reverse,
    List.reverse_reverse]

theorem filter_dropCounted (n : ℕ) (segs : List Bytes) :
    (dropCounted n segs).filter (!isSkipped ·) = (segs.filter (!isSkipped ·)).drop n := by
  fun_induction dropCounted n segs with
  | case1 segs => rfl
  | case2 n => rfl
  | case3 n seg segs hseg ih => simpa [hseg] using ih
  | case4 n seg segs hseg ih => simpa [hseg] using ih

theorem dropCounted_suffix (n : ℕ) (segs : List Bytes) : dropCounted n segs <:+ segs := by
  fun_induction dropCounted n segs with
  | case1 segs => exact List.suffix_rfl
  | case2 n => exact List.suffix_rfl
  | case3 n seg segs hseg ih => exact ih.trans (List.suffix_cons seg segs)
  | case4 n seg segs hseg ih => exact ih.trans (List.suffix_cons seg segs)

theorem notMem_of_mem_segments {s seg : Bytes} (h : seg ∈ segments s) : slash ∉ seg :=
  notMem_of_mem_splitSlash h

/-- A path that is put together from segments has those of them that count. -/
theorem counted_joinSlash {segs : List Bytes} (h : ∀ seg ∈ segs, slash ∉ seg) :
    counted (joinSlash segs) = segs.filter (!isSkipped ·) := by
  by_cases hnil : segs = []
  · subst hnil
    rfl
  · rw [counted, splitSlash_joinSlash hnil h]

@[simp] theorem counted_nil : counted [] = [] := rfl

theorem counted_append_slash (s t : Bytes) :
    counted (s ++ slash :: t) = counted s ++ counted t := by
  rw [counted, splitSlash_append, List.filter_append]
  rfl

/-! ## Paths that begin at the root -/

theorem lead_of_isAbsolute (h : isAbsolute dir = true) : lead dir = [slash] := by
  obtain ⟨bs, rfl⟩ := exists_cons_of_isAbsolute h
  rfl

theorem components_of_isAbsolute (h : isAbsolute dir = true) :
    components dir = .root :: (counted dir).map ofSegment := by
  rw [components_eq, lead_of_isAbsolute h]
  rfl

theorem ofSegment_ne_root (seg : Bytes) : ofSegment seg ≠ .root := by
  unfold ofSegment
  split <;> simp

/-- A path with no components is empty. -/
theorem eq_nil_of_components_eq_nil (h : components root = []) : root = [] := by
  have hlead : leadComponents (lead root) = [] := by
    rw [components_eq] at h
    exact (List.append_eq_nil_iff.1 h).1
  have hcounted : counted root = [] := by
    rw [components_eq] at h
    simpa using (List.append_eq_nil_iff.1 h).2
  by_contra hne
  -- the first segment is neither empty nor a dot, as the path would have a lead then
  have hfirst : ∃ first more, splitSlash root = first :: more ∧ isSkipped first = false := by
    by_cases hslash : slash ∈ root
    · obtain ⟨first, tail, hroot, hfirst⟩ := List.eq_append_cons_of_mem hslash
      refine ⟨first, splitSlash tail, ?_, ?_⟩
      · rw [hroot, splitSlash_append, splitSlash_of_notMem hfirst]
        rfl
      · by_contra hskipped
        simp only [Bool.not_eq_false, isSkipped, Bool.or_eq_true, beq_iff_eq] at hskipped
        obtain rfl | rfl := hskipped <;> simp [hroot, lead, leadComponents] at hlead
    · refine ⟨root, [], splitSlash_of_notMem hslash, ?_⟩
      by_contra hskipped
      simp only [Bool.not_eq_false, isSkipped, Bool.or_eq_true, beq_iff_eq] at hskipped
      obtain hroot | hroot := hskipped
      · exact hne (by simpa using hroot)
      · simp [hroot, lead, leadComponents] at hlead
  obtain ⟨first, more, hsplit, hcounts⟩ := hfirst
  simp [counted, hsplit, hcounts] at hcounted

/-- A root whose components are the first of an absolute path is absolute, or it is empty. -/
theorem isAbsolute_or_eq_nil (h : isAbsolute dir = true)
    (hroot : components root <+: components dir) : isAbsolute root = true ∨ root = [] := by
  cases hcomponents : components root with
  | nil => exact .inr (eq_nil_of_components_eq_nil hcomponents)
  | cons c cs =>
    left
    rw [hcomponents, components_of_isAbsolute h, List.cons_prefix_cons] at hroot
    obtain ⟨rfl, -⟩ := hroot
    rw [components_eq] at hcomponents
    rw [isAbsolute, beq_iff_eq]
    revert hcomponents
    rw [lead.eq_def]
    split
    · simp
    all_goals
      intro hcomponents
      simp [leadComponents] at hcomponents
    obtain ⟨seg, segs, -, hseg, -⟩ := List.map_eq_cons_iff.1 hcomponents
    exact absurd hseg (ofSegment_ne_root seg)

/-! ## What is left below the root -/

theorem below?_eq_none_iff : below? root dir = none ↔ ¬ components root <+: components dir := by
  rw [below?, ← List.isPrefixOf_iff_prefix]
  cases (components root).isPrefixOf (components dir) with
  | false => simp
  | true =>
    simp only [Bool.not_true, Bool.false_eq_true, if_false, not_true, iff_false]
    split <;> simp

/-- Nothing is cut off below an empty root. -/
theorem below?_nil (h : isAbsolute dir = true) :
    ∃ tail, below? [] dir = some (slash :: tail) ∧
      counted tail = counted dir := by
  refine ⟨joinSlash (trimEndSegments (segments dir)), ?_, ?_⟩
  · have hnone : components [] = [] := by decide
    simp [below?, hnone, lead_of_isAbsolute h]
  · rw [counted_joinSlash, filter_trimEndSegments, filter_segments]
    exact fun seg hseg => notMem_of_mem_segments ((trimEndSegments_isPrefix _).subset hseg)

/-- Below an absolute root, the components of the root are cut off. -/
theorem below?_of_isAbsolute (h : isAbsolute dir = true) (hroot : isAbsolute root = true)
    (hbegins : components root <+: components dir) :
    ∃ tail, below? root dir = some tail ∧
      counted tail = (counted dir).drop (counted root).length := by
  let n := (counted root).length
  let segs := (dropCounted n (segments dir)).dropWhile isSkipped
  refine ⟨joinSlash (trimEndSegments segs), ?_, ?_⟩
  · have hlength : (components root).length - (lead dir).length = n := by
      simp [components_of_isAbsolute hroot, lead_of_isAbsolute h, n]
    have hnonempty : (components root).isEmpty = false := by simp [components_of_isAbsolute hroot]
    simp only [below?, List.isPrefixOf_iff_prefix.2 hbegins, hnonempty, hlength]
    rfl
  · have hsegs : segs <:+ segments dir :=
      (List.dropWhile_suffix isSkipped).trans (dropCounted_suffix n _)
    rw [counted_joinSlash, filter_trimEndSegments, filter_dropWhile_isSkipped, filter_dropCounted,
      filter_segments]
    exact fun seg hseg =>
      notMem_of_mem_segments (hsegs.subset ((trimEndSegments_isPrefix _).subset hseg))

/-- What is left below a root leads from there to the directory. -/
theorem components_append_below (h : isAbsolute dir = true) (hrest : below? root dir = some rest) :
    components (root ++ slash :: rest) = components dir ∧
      (rest = [] → components root = components dir) := by
  have hbegins : components root <+: components dir := by
    by_contra hnot
    rw [below?_eq_none_iff.2 hnot] at hrest
    contradiction
  obtain hroot | rfl := isAbsolute_or_eq_nil h hbegins
  · obtain ⟨tail, htail, hcounted⟩ := below?_of_isAbsolute h hroot hbegins
    obtain rfl : tail = rest := by simpa [htail] using hrest
    have hmap : (counted root).map ofSegment ++ (counted tail).map ofSegment =
        (counted dir).map ofSegment := by
      rw [components_of_isAbsolute hroot, components_of_isAbsolute h,
        List.cons_prefix_cons] at hbegins
      obtain ⟨more, hmore⟩ := hbegins.2
      rw [hcounted, List.map_drop, ← hmore, ← List.length_map (f := ofSegment), List.drop_left]
    constructor
    · rw [components_of_isAbsolute (isAbsolute_append hroot _), components_of_isAbsolute h, ← hmap,
        counted_append_slash, List.map_append]
    · rintro rfl
      rw [components_of_isAbsolute hroot, components_of_isAbsolute h, ← hmap]
      simp
  · obtain ⟨tail, htail, hcounted⟩ := below?_nil h
    obtain rfl : slash :: tail = rest := by simpa [htail] using hrest
    constructor
    · have habs : isAbsolute (slash :: slash :: tail) = true := rfl
      have htwo : counted (slash :: slash :: tail) = counted tail := by
        rw [← List.nil_append (slash :: slash :: tail), counted_append_slash,
          ← List.nil_append (slash :: tail), counted_append_slash, counted_nil]
        rfl
      rw [List.nil_append, components_of_isAbsolute habs, components_of_isAbsolute h, ← hcounted,
        htwo]
    · simp

/-! ## What is shown -/

/-- A tilde, which stands for the root. -/
def tildeByte : UInt8 := 0x7E

/-- The bytes that a directory is shown by, before what is not text in them is replaced. -/
def shorten (root : Option Path) (dir : Path) : Path :=
  match root.bind (below? · dir) with
  | none => dir
  | some [] => [tildeByte]
  | some rest => tildeByte :: slash :: rest

theorem lossy_cons_of_lt {b : UInt8} (hb : b.toNat < 0x80) (bytes : Bytes) :
    (Utf8.lossy (b :: bytes)).toList = Char.ofNat b.toNat :: (Utf8.lossy bytes).toList := by
  rw [Utf8.lossy, Utf8.decodeLossy_cons_of_lt hb, String.toList_ofList, Utf8.lossy,
    String.toList_ofList]

theorem abbreviate_eq_lossy (root : Option Path) (dir : Path) :
    abbreviate root dir = Utf8.lossy (shorten root dir) := by
  rw [abbreviate, shorten]
  cases root.bind (below? · dir) with
  | none => rfl
  | some rest =>
    cases rest with
    | nil => exact (Utf8.lossy_encode "~").symm
    | cons b rest =>
      rw [String.ext_iff, lossy_cons_of_lt (by decide), lossy_cons_of_lt (by decide),
        String.toList_append]
      rfl

/-- What a directory looks like in the prompt, and what can be read from that. -/
structure ReadsBack (root : Option Path) (dir shown : Path) : Prop where
  /-- There is a tilde if the components of the root are the first of those of the directory. -/
  tilde_iff : (∃ rest, shown = tildeByte :: rest) ↔
    ∃ r, root = some r ∧ components r <+: components dir
  /-- The root in place of the tilde makes a path to the directory. -/
  expands : ∀ rest, shown = tildeByte :: rest →
    ∃ r, root = some r ∧ components (r ++ rest) = components dir
  spelled : (∀ rest, shown ≠ tildeByte :: rest) →
    shown = dir ∧ ∀ r, root = some r → ¬ components r <+: components dir

theorem ne_tilde_cons (h : isAbsolute dir = true) (rest : Bytes) : dir ≠ tildeByte :: rest := by
  rintro rfl
  have hrelative : isAbsolute (tildeByte :: rest) = false := rfl
  rw [hrelative] at h
  contradiction

theorem readsBack_shorten (root : Option Path) (h : isAbsolute dir = true) :
    ReadsBack root dir (shorten root dir) := by
  by_cases hbelow : ∃ r, root = some r ∧ components r <+: components dir
  · obtain ⟨r, rfl, hbegins⟩ := hbelow
    obtain ⟨rest, hrest⟩ : ∃ rest, below? r dir = some rest := by
      rw [← Option.isSome_iff_exists, ← Option.ne_none_iff_isSome, Ne, below?_eq_none_iff]
      exact not_not.2 hbegins
    obtain ⟨hroot, hempty⟩ := components_append_below h hrest
    obtain ⟨tail, hshown, htail⟩ : ∃ tail, shorten (some r) dir = tildeByte :: tail ∧
        components (r ++ tail) = components dir := by
      by_cases hnil : rest = []
      · subst hnil
        exact ⟨[], by simp [shorten, hrest], by simpa using hempty rfl⟩
      · exact ⟨slash :: rest, by simp [shorten, hrest], hroot⟩
    refine ⟨⟨fun _ => ⟨r, rfl, hbegins⟩, fun _ => ⟨tail, hshown⟩⟩, fun rest' h' => ?_,
      fun hnot => absurd hshown (hnot tail)⟩
    obtain rfl : tail = rest' := by simpa [hshown] using h'
    exact ⟨r, rfl, htail⟩
  · have hnone : root.bind (below? · dir) = none := by
      cases root with
      | none => rfl
      | some r => exact below?_eq_none_iff.2 fun hbegins => hbelow ⟨r, rfl, hbegins⟩
    have hself : shorten root dir = dir := by simp [shorten, hnone]
    rw [hself]
    exact ⟨iff_of_false (fun ⟨rest, hrest⟩ => ne_tilde_cons h rest hrest) hbelow,
      fun rest hrest => absurd hrest (ne_tilde_cons h rest),
      fun _ => ⟨rfl, fun r hr hbegins => hbelow ⟨r, hr, hbegins⟩⟩⟩

/-- Two directories that have the same bytes to be shown by have the same components. -/
theorem components_eq_of_shorten_eq {dir' : Path} (h : isAbsolute dir = true)
    (h' : isAbsolute dir' = true) {tilde : Option Path}
    (hshown : shorten tilde dir' = shorten tilde dir) : components dir' = components dir := by
  have hback := readsBack_shorten tilde h
  have hback' := readsBack_shorten tilde h'
  rw [hshown] at hback'
  by_cases hrest : ∃ rest, shorten tilde dir = tildeByte :: rest
  · obtain ⟨rest, hrest⟩ := hrest
    obtain ⟨r, rfl, hr⟩ := hback.expands rest hrest
    obtain ⟨r', hr', hdir'⟩ := hback'.expands rest hrest
    obtain rfl := Option.some.inj hr'
    rw [← hdir', hr]
  · rw [not_exists] at hrest
    rw [← (hback.spelled hrest).1, (hback'.spelled hrest).1]

/-! ## Directories that are text -/

theorem isText_joinSlash {pieces : List Bytes} :
    Utf8.IsText (joinSlash pieces) ↔ ∀ piece ∈ pieces, Utf8.IsText piece := by
  induction pieces with
  | nil => exact iff_of_true (Utf8.isText_encode "") (by simp)
  | cons piece pieces ih =>
    by_cases hnil : pieces = []
    · simp [hnil, joinSlash]
    · rw [joinSlash_cons piece hnil, Utf8.isText_append_cons_iff (by decide), ih,
        List.forall_mem_cons]

theorem isText_of_mem_segments (h : isAbsolute dir = true) (htext : Utf8.IsText dir)
    {seg : Bytes} (hseg : seg ∈ segments dir) : Utf8.IsText seg := by
  obtain ⟨bs, rfl⟩ := exists_cons_of_isAbsolute h
  rw [Utf8.isText_cons_iff (by decide), ← joinSlash_splitSlash bs, isText_joinSlash] at htext
  exact htext seg hseg

/-- What is left of a text below a root is text, whether the root is text or not. -/
theorem isText_below (h : isAbsolute dir = true) (htext : Utf8.IsText dir)
    (hrest : below? root dir = some rest) : Utf8.IsText rest := by
  have hsegs {segs : List Bytes} (hmem : ∀ seg ∈ segs, seg ∈ segments dir) :
      Utf8.IsText (joinSlash (trimEndSegments segs)) :=
    isText_joinSlash.2 fun seg hseg => isText_of_mem_segments h htext
      (hmem seg ((trimEndSegments_isPrefix segs).subset hseg))
  rw [below?] at hrest
  dsimp only at hrest
  split_ifs at hrest
  · obtain rfl := Option.some.inj hrest
    rw [lead_of_isAbsolute h]
    exact (Utf8.isText_cons_iff (by decide)).2 (hsegs fun _ hseg => hseg)
  · obtain rfl := Option.some.inj hrest
    exact hsegs fun seg hseg =>
      (dropCounted_suffix _ _).subset ((List.dropWhile_suffix isSkipped).subset hseg)

theorem isText_shorten (tilde : Option Path) (h : isAbsolute dir = true)
    (htext : Utf8.IsText dir) : Utf8.IsText (shorten tilde dir) := by
  rw [shorten]
  split
  · exact htext
  · exact Utf8.isText_encode "~"
  · next rest hrest =>
    obtain ⟨r, rfl, hbelow⟩ := Option.bind_eq_some_iff.1 hrest
    exact (Utf8.isText_cons_iff (by decide)).2
      ((Utf8.isText_cons_iff (by decide)).2 (isText_below h htext hbelow))

/-- A text is shown with a tilde if the bytes that it is shown by begin with one. -/
theorem abbreviate_startsWith_tilde_iff (tilde : Option Path) (h : isAbsolute dir = true) :
    (∃ text, abbreviate tilde dir = "~" ++ text) ↔
      ∃ rest, shorten tilde dir = tildeByte :: rest := by
  have hfirst (text : String) : ("~" ++ text).toList = '~' :: text.toList := by simp
  rw [abbreviate_eq_lossy]
  constructor
  · rintro ⟨text, htext⟩
    by_contra hnot
    rw [not_exists] at hnot
    rw [((readsBack_shorten tilde h).spelled hnot).1, String.ext_iff, hfirst] at htext
    obtain ⟨bs, rfl⟩ := exists_cons_of_isAbsolute h
    rw [lossy_cons_of_lt (by decide)] at htext
    exact absurd (List.cons.inj htext).1 (by decide)
  · rintro ⟨rest, hrest⟩
    refine ⟨Utf8.lossy rest, ?_⟩
    rw [hrest, String.ext_iff, hfirst, lossy_cons_of_lt (by decide)]
    rfl

/-- What is shown for a directory has replacements in the place of bytes that are not text, and the
directory can be read back from it if there are none, whatever the root is and however the two are
spelled. Directories with different components are shown alike only by a text with replacements,
and only if one of them has bytes that are not text. A directory that is text is shown as it is. -/
theorem abbreviate_reads_back (tilde : Option Path) (h : isAbsolute dir = true) :
    abbreviate tilde dir = Utf8.lossy (shorten tilde dir) ∧
      ReadsBack tilde dir (shorten tilde dir) ∧
      ((∃ text, abbreviate tilde dir = "~" ++ text) ↔
        ∃ r, tilde = some r ∧ components r <+: components dir) ∧
      (Utf8.IsText dir ∨ Utf8.replacement ∉ (abbreviate tilde dir).toList →
        Utf8.IsText (shorten tilde dir)) ∧
      (Utf8.IsText (shorten tilde dir) →
        ReadsBack tilde dir (Utf8.encode (abbreviate tilde dir))) ∧
      ∀ dir', isAbsolute dir' = true → components dir' ≠ components dir →
        abbreviate tilde dir' = abbreviate tilde dir →
          Utf8.replacement ∈ (abbreviate tilde dir).toList ∧
            ¬ (Utf8.IsText (shorten tilde dir) ∧ Utf8.IsText (shorten tilde dir')) := by
  have hback := readsBack_shorten tilde h
  have hlossy := abbreviate_eq_lossy tilde
  have hkept (path : Path) (hnone : Utf8.replacement ∉ (abbreviate tilde path).toList) :
      Utf8.IsText (shorten tilde path) :=
    Utf8.isText_of_replacement_notMem (hlossy path ▸ hnone)
  refine ⟨hlossy dir, hback, (abbreviate_startsWith_tilde_iff tilde h).trans hback.tilde_iff,
    fun hdir => hdir.elim (isText_shorten tilde h) (hkept dir), fun htext => ?_,
    fun dir' h' hne hshown => ?_⟩
  · rwa [hlossy, htext.encode_lossy]
  · have hnot : ¬ (Utf8.IsText (shorten tilde dir) ∧ Utf8.IsText (shorten tilde dir')) := by
      rintro ⟨htext, htext'⟩
      rw [hlossy, hlossy] at hshown
      have hbytes := congrArg Utf8.encode hshown
      rw [htext.encode_lossy, htext'.encode_lossy] at hbytes
      exact hne (components_eq_of_shorten_eq h h' hbytes)
    refine ⟨?_, hnot⟩
    by_contra hnone
    exact hnot ⟨hkept dir hnone, hkept dir' (hshown ▸ hnone)⟩

/-- A root and a directory below it that are spelled in different ways, a directory beside the root
whose name goes on from that of the root, and a directory that is text but for its root. -/
theorem abbreviate_reads_back_spellings :
    ReadsBack (some "/home/./ada//") "/home//ada/./src/../x/." "~/src/../x" ∧
      abbreviate (some "/home/./ada//") "/home/adam" ≠ "~/src/../x" ∧
      ReadsBack (some [slash, 0xFF]) (slash :: 0xFF :: Utf8.encode "//src") "~/src" := by
  have hshorten : shorten (some "/home/./ada//") "/home//ada/./src/../x/." = "~/src/../x" := by
    decide
  have hbelow : shorten (some [slash, 0xFF]) (slash :: 0xFF :: Utf8.encode "//src") = "~/src" := by
    decide
  obtain ⟨hlossy, -, -, -, hback, hdiffer⟩ := abbreviate_reads_back (some "/home/./ada//")
    (show isAbsolute "/home//ada/./src/../x/." = true by decide)
  obtain ⟨hlossy', -, -, -, hback', -⟩ := abbreviate_reads_back (some [slash, 0xFF])
    (show isAbsolute (slash :: 0xFF :: Utf8.encode "//src") = true by decide)
  rw [hshorten, Utf8.lossy_encode] at hlossy
  rw [hbelow, Utf8.lossy_encode] at hlossy'
  rw [hshorten, hlossy] at hback
  rw [hbelow, hlossy'] at hback'
  rw [hlossy] at hdiffer
  refine ⟨hback (Utf8.isText_encode _), fun heq => ?_, hback' (Utf8.isText_encode _)⟩
  exact absurd (hdiffer "/home/adam" (by decide) (by decide) heq).1 (by decide)

/-- Two directories whose names differ in a byte that no text has are shown alike. -/
theorem abbreviate_replaces_bytes :
    isAbsolute [slash, 0xFF] = true ∧ isAbsolute [slash, 0xFE] = true ∧
      components [slash, 0xFF] ≠ components [slash, 0xFE] ∧
      abbreviate none [slash, 0xFF] = abbreviate none [slash, 0xFE] ∧
      Utf8.encode (abbreviate none [slash, 0xFF]) ≠ [slash, 0xFF] := by
  have hshown : abbreviate none [slash, 0xFF] = "/\uFFFD" ∧
      abbreviate none [slash, 0xFE] = "/\uFFFD" := by
    constructor <;> simp [abbreviate, Utf8.lossy, Utf8.decodeLossy, Utf8.lead?] <;> rfl
  rw [hshown.1, hshown.2]
  exact ⟨rfl, rfl, by decide, rfl, by decide⟩

end LineShell.Path
