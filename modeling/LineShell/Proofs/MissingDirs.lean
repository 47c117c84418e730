import LineShell.Proofs.TwoCopies

/-!
# Directories that are made on the way

Where the names of a path lead to a directory that has no entry of the next name, a directory is
made for each name that is left, one below the other, and nothing else changes. A lone dot among
these names stands for the directory above, so it cannot be the last of them: nothing makes that
directory before it is asked for.
-/
namespace LineShell

namespace Path
variable {path parent : Path} {front rest : List Name} {last name : Name}

/-! ## The names of a parent -/

def segmentNames (segs : List Bytes) : List Name :=
  segs.filter (· ≠ [])

theorem segmentNames_append (xs ys : List Bytes) :
    segmentNames (xs ++ ys) = segmentNames xs ++ segmentNames ys := by
  simp [segmentNames]

theorem segmentNames_of_isSkipped {segs : List Bytes}
    (h : ∀ seg ∈ segs, isSkipped seg = true) : ∀ name ∈ segmentNames segs, name = [dot] := by
  intro name hname
  obtain ⟨hmem, hne⟩ := List.mem_filter.1 hname
  have hskipped := h name hmem
  simp only [isSkipped, Bool.or_eq_true, beq_iff_eq] at hskipped
  exact hskipped.resolve_left (by simpa using hne)

def leadNames (lead : Bytes) : List Name :=
  if lead = [dot] then [[dot]] else []

/-- What comes after a lead that is a dot starts with a slash. -/
theorem lead_cases (s : Bytes) : lead s = [slash] ∨
    (lead s = [dot] ∧ ∃ rest, segments s = [] :: rest) ∨ lead s = [] := by
  rw [segments, lead.eq_def]
  split
  · exact .inl rfl
  · exact .inr (.inl ⟨rfl, [], rfl⟩)
  · next rest => exact .inr (.inl ⟨rfl, splitSlash rest, rfl⟩)
  · exact .inr (.inr rfl)

theorem segmentNames_splitSlash_joinSlash {segs : List Bytes} (h : ∀ seg ∈ segs, slash ∉ seg) :
    segmentNames (splitSlash (joinSlash segs)) = segmentNames segs := by
  by_cases hnil : segs = []
  · subst hnil
    rfl
  · rw [splitSlash_joinSlash hnil h]

/-- The names of a path that begins as another one does. -/
theorem names_lead_append {s : Bytes} {segs : List Bytes} (h : segs <+: segments s) :
    names (lead s ++ joinSlash segs) =
      leadNames (lead s) ++ segmentNames segs := by
  have hslash : ∀ seg ∈ segs, slash ∉ seg :=
    fun seg hseg => notMem_of_mem_splitSlash (h.subset hseg)
  have hnames (s : Bytes) : names s = segmentNames (splitSlash s) := rfl
  obtain hlead | ⟨hlead, rest, hrest⟩ | hlead := lead_cases s
  · rw [hlead, hnames, List.singleton_append, splitSlash,
      ← segmentNames_splitSlash_joinSlash hslash]
    rfl
  · rw [hlead, hnames]
    cases segs with
    | nil => rfl
    | cons first more =>
      rw [hrest, List.cons_prefix_cons] at h
      obtain ⟨rfl, -⟩ := h
      by_cases hmore : more = []
      · subst hmore
        rfl
      · rw [List.forall_mem_cons] at hslash
        rw [joinSlash_cons [] hmore, List.nil_append, splitSlash_append, segmentNames_append,
          segmentNames_splitSlash_joinSlash hslash.2]
        rfl
  · rw [hlead, hnames, List.nil_append, segmentNames_splitSlash_joinSlash hslash]
    rfl

theorem names_eq_segmentNames (path : Path) :
    names path = leadNames (lead path) ++ segmentNames (segments path) := by
  have hnames := names_lead_append (List.prefix_refl (segments path))
  rwa [lead_append_segments] at hnames

/-- The last segment that is not trimmed off stands for a name, and that is no dot. -/
theorem segmentNames_of_trim {segs init : List Bytes} {seg : Bytes}
    (h : trimEndSegments segs = init ++ [seg]) :
    segmentNames (init ++ [seg]) = segmentNames init ++ [seg] ∧ seg ≠ [dot] := by
  have hne : trimEndSegments segs ≠ [] := by simp [h]
  have hcounts := isSkipped_getLast_trimEndSegments hne
  simp only [h, List.getLast_concat, isSkipped, Bool.or_eq_false_iff, beq_eq_false_iff_ne]
    at hcounts
  constructor
  · rw [segmentNames_append]
    simp [segmentNames, hcounts.1]
  · exact hcounts.2

/-- The last name that is no dot is that of the last segment that counts. -/
theorem exists_last_segment {s : Bytes} {segs : List Bytes}
    (h : leadNames (lead s) ++ segmentNames segs = front ++ [last]) (hlast : last ≠ [dot]) :
    ∃ init seg, trimEndSegments segs = init ++ [seg] ∧
      front = leadNames (lead s) ++ segmentNames init := by
  obtain ⟨tail, hsegs, htail⟩ := exists_trimmed segs
  -- nothing counts behind the last name, and so there are no names there
  have hnone : segmentNames tail = [] := by
    by_contra hne
    have hdot := segmentNames_of_isSkipped htail _ (List.getLast_mem hne)
    have hall := congrArg List.getLast? h
    rw [hsegs, segmentNames_append, ← List.append_assoc, List.getLast?_append,
      List.getLast?_eq_some_getLast hne, hdot, Option.some_or, List.getLast?_concat,
      Option.some.injEq] at hall
    exact hlast hall.symm
  rw [hsegs, segmentNames_append, hnone, List.append_nil] at h
  obtain hnil | ⟨init, seg, hkept⟩ := (trimEndSegments segs).eq_nil_or_concat
  · rw [hnil, leadNames] at h
    split_ifs at h
    · have hdot : some [dot] = (front ++ [last]).getLast? := congrArg List.getLast? h
      rw [List.getLast?_concat, Option.some.injEq] at hdot
      exact absurd hdot.symm hlast
    · simp [segmentNames] at h
  · rw [List.concat_eq_append] at hkept
    rw [hkept, (segmentNames_of_trim hkept).1, ← List.append_assoc] at h
    exact ⟨init, seg, hkept, (List.append_inj' h rfl).1.symm⟩

/-- A path whose last name is no dot has a parent. That has the names before the last one but for
dots at their end. -/
theorem exists_parent (h : names path = front ++ [last]) (hlast : last ≠ [dot]) :
    ∃ parent dots, parent? path = some parent ∧ front = names parent ++ dots ∧
      (∀ name ∈ dots, name = [dot]) ∧
      ((names parent).getLast? = some [dot] → names parent = [[dot]]) := by
  rw [names_eq_segmentNames] at h
  obtain ⟨init, seg, hkept, rfl⟩ := exists_last_segment h hlast
  obtain ⟨tail, hinit, htail⟩ := exists_trimmed init
  have hbegins : trimEndSegments init <+: segments path := by
    have hkeep := trimEndSegments_isPrefix (segments path)
    rw [hkept] at hkeep
    exact ((trimEndSegments_isPrefix init).trans (List.prefix_append init [seg])).trans hkeep
  let parent := lead path ++ joinSlash (trimEndSegments init)
  have hnames : names parent = leadNames (lead path) ++
      segmentNames (trimEndSegments init) := names_lead_append hbegins
  refine ⟨parent, segmentNames tail, ?_, ?_, segmentNames_of_isSkipped htail, fun hdot => ?_⟩
  · rw [parent?, hkept]
    split
    · next hnil => simp at hnil
    · rw [List.dropLast_concat]
  · rw [hnames, List.append_assoc, ← segmentNames_append, ← hinit]
  · -- the last segment of the parent counts, unless nothing is left but the lead
    rw [hnames] at hdot ⊢
    obtain hnil | ⟨more, seg', hmore⟩ := (trimEndSegments init).eq_nil_or_concat
    · rw [hnil, leadNames] at hdot ⊢
      split_ifs at hdot ⊢
      · rfl
      · simp [segmentNames] at hdot
    · rw [List.concat_eq_append] at hmore
      obtain ⟨hsplit, hne⟩ := segmentNames_of_trim hmore
      rw [hmore, hsplit, ← List.append_assoc, List.getLast?_concat, Option.some.injEq] at hdot
      exact absurd hdot hne

theorem components_ne_nil_of_names (h : names path = front ++ [last]) (hlast : last ≠ [dot]) :
    components path ≠ [] := by
  have hmem : last ∈ names path := by simp [h]
  obtain ⟨hsplit, hne⟩ := List.mem_filter.1 hmem
  have hcounts : isSkipped last = false := by simp_all [isSkipped]
  have hcounted : last ∈ counted path := List.mem_filter.2 ⟨hsplit, by simp [hcounts]⟩
  rw [components_eq]
  exact List.append_ne_nil_of_right_ne_nil _ (List.ne_nil_of_mem (List.mem_map_of_mem hcounted))

/-- A path that the system takes: no NUL is in it, and it is not too long. -/
def Fits (path : Path) : Prop :=
  0 ∉ path ∧ path.length ≤ maxLength

instance (path : Path) : Decidable (Fits path) :=
  inferInstanceAs (Decidable (_ ∧ _))

theorem Fits.of_isPrefix (h : Fits path) (hbegins : parent <+: path) :
    Fits parent := by
  obtain ⟨tail, htail⟩ := hbegins
  have hlen := h.2
  rw [← htail, List.length_append] at hlen
  refine ⟨fun hnul => h.1 ?_, by omega⟩
  rw [← htail]
  exact List.mem_append_left _ hnul

/-- Names without the lone dots among them, which lead nowhere else. -/
def withoutDots (names : List Name) : List Name :=
  names.filter (· ≠ [dot])

theorem withoutDots_append (xs ys : List Name) :
    withoutDots (xs ++ ys) = withoutDots xs ++ withoutDots ys :=
  List.filter_append ..

theorem withoutDots_of_dots (h : ∀ name ∈ rest, name = [dot]) : withoutDots rest = [] := by
  rw [withoutDots, List.filter_eq_nil_iff]
  simpa using h

end Path

namespace FileSystem
variable {fs fs' fs'' : FileSystem} {path : Path} {dir place q : Place} {name : Name}
  {front rest : List Name} {links : ℕ} {here : Place} {node : Node}

/-! ## Ways that go on -/

theorem LeadsToDir.append (h : LeadsToDir fs links here front dir)
    (hrest : ∀ links', LeadsToDir fs links' dir rest place) :
    LeadsToDir fs links here (front ++ rest) place := by
  induction h using LeadsToDir.induction with
  | nil => exact hrest _
  | dot _ ih => exact ih.dot
  | dotDot hhere _ ih => exact ih.dotDot hhere
  | down hname _ ih => exact ih.down hname
  | link hname hlink _ ih =>
    rw [List.append_assoc] at ih
    exact ih.link hname hlink

/-- Names lead down to a directory, and dots among them make no difference. -/
theorem leadsToDir_withoutDots {es : Entries}
    (hdir : fs.node? (here ++ Path.withoutDots rest) = some (.dir es))
    (hrest : ∀ name ∈ rest, name = [Path.dot] ∨ Path.IsEntryName name) :
    LeadsToDir fs links here rest (here ++ Path.withoutDots rest) := by
  induction rest generalizing here with
  | nil =>
    rw [Path.withoutDots, List.filter_nil, List.append_nil] at hdir ⊢
    exact .nil hdir
  | cons name rest ih =>
    rw [List.forall_mem_cons] at hrest
    by_cases hdot : name = [Path.dot]
    · subst hdot
      exact (ih hdir hrest.2).dot
    · have hcons : here ++ Path.withoutDots (name :: rest) =
          here ++ [name] ++ Path.withoutDots rest := by
        simp [Path.withoutDots, hdot]
      rw [hcons] at hdir ⊢
      exact (ih hdir hrest.2).down (hrest.1.resolve_left hdot)

/-- A path is followed from the directory that its first names lead to. -/
theorem LeadsToDir.exists_locate (hfront : LeadsToDir fs maxLinks [] front dir)
    (hnames : Path.names path = front ++ rest) (hrest : rest ≠ []) (hfits : Path.Fits path) :
    ∃ links, ∀ lastLink, fs.locate lastLink path =
      (fs.walk lastLink links dir rest (Path.endsInSlash path)).mapError .os := by
  obtain ⟨links, hwalk⟩ := hfront.walk_append hrest
  have hne : path ≠ [] := by
    rintro rfl
    exact hrest (List.append_eq_nil_iff.1 hnames.symm).2
  refine ⟨links, fun lastLink => ?_⟩
  rw [locate, trace, hnames, hwalk]
  simp only [List.contains_eq_mem, hfits.1, decide_false, Nat.not_lt.2 hfits.2, Bool.and_false,
    List.isEmpty_iff, hne, Bool.false_eq_true, if_false]
  cases fs.walk lastLink links dir rest (Path.endsInSlash path) <;> rfl

/-- A path is found to lead to the directory that its names lead to. -/
theorem LeadsToDir.resolve (h : LeadsToDir fs maxLinks [] (Path.names path) dir)
    (hne : path ≠ []) (hfits : Path.Fits path) : ∃ es, fs.resolve path = .ok (dir, .dir es) := by
  obtain ⟨es, hwalks⟩ := h
  obtain ⟨last, slash, hwalks⟩ := hwalks (Path.endsInSlash path)
  exact ⟨es, resolve_eq_ok_iff.2
    ⟨last, slash, locate_of_walks hfits.1 hne hfits.2 hwalks, fun _ => rfl⟩⟩

/-- A path of nothing but names of entries leads to the directory at them. -/
theorem resolve_of_entryNames {es : Entries} (hnames : Path.names path = place)
    (hentries : ∀ name ∈ place, Path.IsEntryName name) (hdir : fs.node? place = some (.dir es))
    (hne : path ≠ []) (hfits : Path.Fits path) : fs.resolve path = .ok (place, .dir es) := by
  have hdots : Path.withoutDots place = place := by
    rw [Path.withoutDots, List.filter_eq_self]
    exact fun name hname => by simpa using (hentries name hname).1
  have hleads : LeadsToDir fs maxLinks [] place ([] ++ Path.withoutDots place) :=
    leadsToDir_withoutDots (by rwa [hdots]) fun name hname => .inr (hentries name hname)
  rw [hdots, List.nil_append, ← hnames] at hleads
  obtain ⟨es', hresolve⟩ := hleads.resolve hne hfits
  rw [hnames] at hresolve
  obtain rfl := Node.dir.inj (Option.some.inj (hdir.symm.trans (node?_of_resolve hresolve)))
  exact hresolve

/-- A path whose last name is free leads to the entry that is missing. -/
theorem LeadsToDir.locate_of_free (hfront : LeadsToDir fs maxLinks [] front dir)
    (hnames : Path.names path = front ++ [name]) (hname : Path.IsEntryName name)
    (hfree : fs.node? (dir ++ [name]) = none) (hfits : Path.Fits path) (lastLink : LastLink) :
    fs.locate lastLink path = .ok (.missing dir name (Path.endsInSlash path)) := by
  obtain ⟨es, hdir⟩ := hfront.exists_dir_place
  obtain ⟨links, hlocate⟩ := hfront.exists_locate hnames (List.cons_ne_nil name []) hfits
  rw [node?_append_singleton fs hdir] at hfree
  rw [hlocate, walk_absent hdir hname hfree]
  rfl

/-! ## Places that look the same -/

/-- What a place looks like: what stands there, without what lies below. -/
def faceAt (fs : FileSystem) (q : Place) : Option Node :=
  (fs.node? q).map Node.face

theorem faceAt_eq_dir_iff : fs.faceAt q = some (.dir []) ↔ ∃ es, fs.node? q = some (.dir es) := by
  rw [faceAt]
  cases fs.node? q with
  | none => simp
  | some node => cases node <;> simp [Node.face]

theorem faceAt_eq_none_iff : fs.faceAt q = none ↔ fs.node? q = none :=
  Option.map_eq_none_iff

theorem Adds.faceAt_self (h : Adds place node fs fs') : fs'.faceAt place = some node.face := by
  rw [faceAt, h.present]
  rfl

theorem Adds.faceAt_eq (h : Adds place node fs fs') (hq : q ≠ place) :
    fs'.faceAt q = fs.faceAt q :=
  h.same q hq

/-! ## Making the directories on the way -/

/-- A place on the way from a directory down to another place, but for the directory itself. -/
def Between (dir place q : Place) : Prop :=
  dir <+: q ∧ q ≠ dir ∧ q <+: place

theorem not_between_self (dir q : Place) : ¬ Between dir dir q := by
  rintro ⟨hdir, hne, hq⟩
  exact hne (hq.eq_of_length_le hdir.length_le)

theorem between_concat (h : dir <+: place) :
    Between dir (place ++ [name]) q ↔ Between dir place q ∨ q = place ++ [name] := by
  rw [Between, Between, List.prefix_concat_iff]
  constructor
  · rintro ⟨hdir, hne, rfl | hq⟩
    · exact .inr rfl
    · exact .inl ⟨hdir, hne, hq⟩
  · rintro (⟨hdir, hne, hq⟩ | rfl)
    · exact ⟨hdir, hne, .inr hq⟩
    · refine ⟨h.trans (List.prefix_append place [name]), fun heq => ?_, .inl rfl⟩
      have hlen := h.length_le
      rw [← heq, List.length_append, List.length_singleton] at hlen
      omega

/-- What becomes of the files when directories are made from a directory down to a place. -/
structure Builds (dir place : Place) (fs fs' : FileSystem) : Prop where
  made : ∀ q, Between dir place q → fs'.faceAt q = some (.dir [])
  same : ∀ q, ¬ Between dir place q → fs'.faceAt q = fs.faceAt q

theorem Builds.refl (dir : Place) (fs : FileSystem) : Builds dir dir fs fs :=
  ⟨fun q hq => absurd hq (not_between_self dir q), fun _ _ => rfl⟩

theorem Builds.concat (h : Builds dir place fs fs') (hdir : dir <+: place)
    (hadds : Adds (place ++ [name]) (.dir []) fs' fs'') :
    Builds dir (place ++ [name]) fs fs'' := by
  constructor
  case made =>
    intro q hq
    by_cases hlast : q = place ++ [name]
    · subst hlast
      exact hadds.faceAt_self
    · rw [hadds.faceAt_eq hlast]
      exact h.made q (((between_concat hdir).1 hq).resolve_right hlast)
  case same =>
    intro q hq
    rw [between_concat hdir, not_or] at hq
    rw [hadds.faceAt_eq hq.2, h.same q hq.1]

/-- The first names of a path lead to a directory, and nothing has the name that comes next. What is
left of the names goes down, and does not end in a dot. -/
structure Lacks (fs : FileSystem) (path : Path) (dir : Place) (rest : List Name) : Prop where
  leads : ∃ front, Path.names path = front ++ rest ∧ LeadsToDir fs maxLinks [] front dir
  free : ∀ name more, rest = name :: more →
    Path.IsEntryName name ∧ fs.node? (dir ++ [name]) = none
  down : ∀ name ∈ rest, name = [Path.dot] ∨ Path.IsEntryName name
  last : rest.getLast? ≠ some [Path.dot]

theorem makeDir_of_free (hfront : LeadsToDir fs maxLinks [] front dir)
    (hnames : Path.names path = front ++ [name]) (hname : Path.IsEntryName name)
    (hfree : fs.node? (dir ++ [name]) = none) (hfits : Path.Fits path) :
    fs.makeDir path = (.ok (), fs.put (dir ++ [name]) (.dir [])) ∧
      Adds (dir ++ [name]) (.dir []) fs (fs.put (dir ++ [name]) (.dir [])) := by
  have hlocate := hfront.locate_of_free hnames hname hfree hfits .keep
  refine ⟨?_, adds_put hlocate Node.childless_empty⟩
  rw [makeDir, hlocate]

/-- Where only the last name is free, one directory is made. -/
theorem makeDirAll_of_free (hfront : LeadsToDir fs maxLinks [] front dir)
    (hnames : Path.names path = front ++ [name]) (hname : Path.IsEntryName name)
    (hfree : fs.node? (dir ++ [name]) = none) (hfits : Path.Fits path) :
    fs.makeDirAll path = (.ok (), fs.put (dir ++ [name]) (.dir [])) ∧
      Adds (dir ++ [name]) (.dir []) fs (fs.put (dir ++ [name]) (.dir [])) := by
  obtain ⟨hmake, hadds⟩ := makeDir_of_free hfront hnames hname hfree hfits
  refine ⟨?_, hadds⟩
  have hcomponents := Path.components_ne_nil_of_names hnames hname.1
  rw [makeDirAll_eq_settleDir hcomponents (by simp [hmake]), settleDir, hmake]

theorem makeDirAll_of_locate_error {e : IoError} (hne : Path.components path ≠ [])
    (hlocate : ∀ lastLink, fs.locate lastLink path = .error e) (he : e.isNotFound = false) :
    fs.makeDirAll path = (.error e, fs) := by
  have hmake : fs.makeDir path = (.error e, fs) := by rw [makeDir, hlocate]
  have hdir := isDir_of_resolve_error (resolve_of_locate_error (hlocate .follow))
  rw [makeDirAll_eq_settleDir hne (by simp [hmake, he]), settleDir, hmake]
  simp [hdir]

/-- No directory is made by a path that the system does not take. -/
theorem makeDirAll_of_not_fits (habs : Path.isAbsolute path = true) (hfits : ¬ Path.Fits path)
    (fs : FileSystem) : fs.makeDirAll path =
      (.error (if 0 ∈ path then .nulInPath else .os .nameTooLong), fs) := by
  apply makeDirAll_of_locate_error (Path.components_ne_nil habs)
  · intro lastLink
    by_cases hnul : 0 ∈ path
    · simp [locate, trace, hnul]
    · have hlong : Path.maxLength < path.length := by
        by_contra hshort
        exact hfits ⟨hnul, Nat.le_of_not_lt hshort⟩
      simp [locate, hnul, hlong]
  · split <;> rfl

theorem makeDirAll_of_leadsToDir (h : LeadsToDir fs maxLinks [] (Path.names path) dir)
    (hfits : Path.Fits path) : fs.makeDirAll path = (.ok (), fs) := by
  by_cases hnil : Path.components path = []
  · rw [makeDirAll, if_pos (by simp [hnil])]
  · have hne : path ≠ [] := by
      rintro rfl
      exact hnil rfl
    obtain ⟨es, hresolve⟩ := h.resolve hne hfits
    exact makeDirAll_of_isDir hnil (isDir_iff.2 ⟨dir, es, hresolve⟩)

/-- The parent of a path with more names left than one lacks the same directories but the last. -/
theorem Lacks.parent {init : List Name} (h : fs.Lacks path dir (init ++ [name]))
    (hinit : init ≠ []) : ∃ parent init' dots, Path.parent? path = some parent ∧
      init = init' ++ dots ∧ init' ≠ [] ∧ (∀ name ∈ dots, name = [Path.dot]) ∧
      fs.Lacks parent dir init' := by
  obtain ⟨front, hnames, hfront⟩ := h.leads
  have hlast : name ≠ [Path.dot] := by
    rintro rfl
    exact h.last List.getLast?_concat
  obtain ⟨first, more, rfl⟩ := List.exists_cons_of_ne_nil hinit
  obtain ⟨hfirst, hfree⟩ := h.free first (more ++ [name]) rfl
  rw [← List.append_assoc] at hnames
  obtain ⟨parent, dots, hparent, hsplit, hdots, hdot⟩ := Path.exists_parent hnames hlast
  -- the dots are behind the first name that is left, since that is none
  obtain ⟨init', hinit', hkept⟩ : ∃ init', Path.names parent = front ++ init' ∧
      first :: more = init' ++ dots := by
    obtain ⟨init', hinit', hkept⟩ | ⟨tail, -, htail⟩ := List.append_eq_append_iff.1 hsplit
    · exact ⟨init', hinit', hkept⟩
    · have hmem : first ∈ dots := by simp [htail]
      exact absurd (hdots first hmem) hfirst.1
  have hne : init' ≠ [] := by
    rintro rfl
    have hmem : first ∈ dots := by
      rw [← List.nil_append dots, ← hkept]
      exact List.mem_cons_self
    exact hfirst.1 (hdots first hmem)
  obtain ⟨first', more', rfl⟩ := List.exists_cons_of_ne_nil hne
  obtain ⟨rfl, hmore⟩ := List.cons.inj hkept
  refine ⟨parent, first :: more', dots, hparent, hkept, hne, hdots, ⟨front, hinit', hfront⟩, ?_, ?_,
    fun hend => ?_⟩
  · rintro n tail heq
    obtain ⟨rfl, -⟩ := List.cons.inj heq
    exact ⟨hfirst, hfree⟩
  · intro n hn
    apply h.down
    rw [hkept]
    exact List.mem_append_left _ (List.mem_append_left _ hn)
  · have hsingle : Path.names parent = [[Path.dot]] := by
      apply hdot
      rw [hinit', List.getLast?_append, hend, Option.some_or]
    have hmem : first ∈ Path.names parent := by simp [hinit']
    rw [hsingle, List.mem_singleton] at hmem
    exact hfirst.1 hmem

/-- No directory is made where the one above it is missing. -/
theorem Lacks.makeDir_eq {first : Name} (h : fs.Lacks path dir (first :: rest))
    (hrest : rest ≠ []) (hfits : Path.Fits path) :
    fs.makeDir path = (.error (.os .noEntry), fs) := by
  obtain ⟨front, hnames, hfront⟩ := h.leads
  obtain ⟨hfirst, hfree⟩ := h.free first rest rfl
  obtain ⟨es, hdir⟩ := hfront.exists_dir_place
  obtain ⟨links, hlocate⟩ := hfront.exists_locate hnames (List.cons_ne_nil first rest) hfits
  have hkeep : fs.locate .keep path = .error (.os .noEntry) := by
    rw [hlocate, walk_past_absent hrest hdir hfirst hfree]
    rfl
  rw [makeDir, hkeep]

/-- All directories that a path lacks are made, and nothing else changes. -/
theorem Lacks.exists_makeDirAll (h : fs.Lacks path dir rest) (hfits : Path.Fits path) :
    ∃ made, fs.makeDirAll path = (.ok (), made) ∧
      Builds dir (dir ++ Path.withoutDots rest) fs made ∧
      (rest ≠ [] → made.node? (dir ++ Path.withoutDots rest) = some (.dir [])) := by
  induction hn : rest.length using Nat.strong_induction_on generalizing path rest with
  | _ n ih =>
  obtain ⟨front, hnames, hfront⟩ := h.leads
  obtain rfl | ⟨init, name, rfl⟩ := rest.eq_nil_or_concat
  · rw [List.append_nil] at hnames
    rw [← hnames] at hfront
    refine ⟨fs, makeDirAll_of_leadsToDir hfront hfits, ?_, fun hne => absurd rfl hne⟩
    rw [Path.withoutDots, List.filter_nil, List.append_nil]
    exact .refl dir fs
  rw [List.concat_eq_append] at h hnames hn ⊢
  rw [← List.append_assoc] at hnames
  have hlast : name ≠ [Path.dot] := by
    rintro rfl
    exact h.last List.getLast?_concat
  have hname : Path.IsEntryName name := (h.down name (by simp)).resolve_left hlast
  have hdir : dir <+: dir ++ Path.withoutDots init := List.prefix_append dir _
  have hplace : dir ++ Path.withoutDots (init ++ [name]) =
      dir ++ Path.withoutDots init ++ [name] := by
    simp [Path.withoutDots, hlast]
  rw [hplace]
  by_cases hinit : init = []
  · subst hinit
    have hfree := (h.free name [] rfl).2
    rw [List.append_nil] at hnames
    rw [Path.withoutDots, List.filter_nil, List.append_nil]
    obtain ⟨hmake, hadds⟩ := makeDirAll_of_free hfront hnames hname hfree hfits
    exact ⟨_, hmake, (Builds.refl dir fs).concat List.prefix_rfl hadds, fun _ => hadds.present⟩
  · obtain ⟨parent, init', dots, hparent, hkept, hne, hdots, hlacks⟩ := h.parent hinit
    have hmissing : fs.makeDir path = (.error (.os .noEntry), fs) := by
      obtain ⟨first, more, rfl⟩ := List.exists_cons_of_ne_nil hinit
      exact Lacks.makeDir_eq h (by simp) hfits
    have hwithout : Path.withoutDots init = Path.withoutDots init' := by
      rw [hkept, Path.withoutDots_append, Path.withoutDots_of_dots hdots, List.append_nil]
    have hlength : init'.length < n := by
      rw [← hn, hkept, List.length_append, List.length_append, List.length_singleton]
      omega
    obtain ⟨above, hmade, hbuilds, hthere⟩ :=
      ih _ hlength hlacks (hfits.of_isPrefix (Path.isPrefix_of_parent? hparent)) rfl
    rw [← hwithout] at hbuilds hthere
    have hempty := hthere hne
    have hgrows := (fs.extends_makeDirAll parent).grows
    rw [hmade] at hgrows
    -- the way now leads to the parent, which has no entry yet
    have hway : LeadsToDir above maxLinks [] (front ++ init) (dir ++ Path.withoutDots init) := by
      refine (hfront.of_grows hgrows).append fun _ => leadsToDir_withoutDots hempty ?_
      exact fun n hn => h.down n (List.mem_append_left [name] hn)
    have hfree : above.node? (dir ++ Path.withoutDots init ++ [name]) = none := by
      rw [node?_append_singleton above hempty, List.lookup_nil]
    obtain ⟨hmake, hadds⟩ := makeDir_of_free hway hnames hname hfree hfits
    refine ⟨_, ?_, hbuilds.concat hdir hadds, fun _ => hadds.present⟩
    have hcomponents := Path.components_ne_nil_of_names hnames hlast
    have hnotFound : (IoError.os .noEntry).isNotFound = true := by decide
    rw [makeDirAll_of_notFound hcomponents hmissing hnotFound hparent, hmade]
    dsimp only
    rw [settleDir, hmake]

/-- Then the path leads to the last of them. -/
theorem Lacks.leadsToDir {es : Entries} (h : fs.Lacks path dir rest) (hgrows : Grows fs fs')
    (hthere : fs'.node? (dir ++ Path.withoutDots rest) = some (.dir es)) :
    LeadsToDir fs' maxLinks [] (Path.names path) (dir ++ Path.withoutDots rest) := by
  obtain ⟨front, hnames, hfront⟩ := h.leads
  rw [hnames]
  exact (hfront.of_grows hgrows).append fun _ => leadsToDir_withoutDots hthere h.down

end FileSystem
end LineShell
