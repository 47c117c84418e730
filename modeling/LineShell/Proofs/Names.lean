import LineShell.Proofs.Growth

/-!
# Names of entries

In a proper file system every entry has a name that a path can be made of, and no two entries of a
directory have the same name. What is put where a path leads keeps it so, and of files that are
given entry by entry it can be computed. A name that is joined to a path is the last of the names
that the path is followed by.
-/
namespace LineShell

namespace Path

theorem splitSlash_append (s t : Bytes) :
    splitSlash (s ++ slash :: t) = splitSlash s ++ splitSlash t := by
  fun_induction splitSlash s with
  | case1 => rfl
  | case2 bs ih => rw [List.cons_append, splitSlash, ih, List.cons_append]
  | case3 b bs _ h => exact absurd h (splitSlash_ne_nil bs)
  | case4 b bs hb piece rest h ih =>
    rw [List.cons_append, splitSlash, ih, h] <;> simp_all

theorem splitSlash_of_notMem {s : Bytes} (h : slash ∉ s) : splitSlash s = [s] := by
  fun_induction splitSlash s with
  | case1 => rfl
  | case2 bs ih => simp at h
  | case3 b bs _ hbs => exact absurd hbs (splitSlash_ne_nil bs)
  | case4 b bs hb piece rest hbs ih =>
    have hsplit := ih fun hmem => h (List.mem_cons_of_mem b hmem)
    rw [hbs, List.cons.injEq] at hsplit
    obtain ⟨rfl, rfl⟩ := hsplit
    rfl

theorem notMem_of_mem_splitSlash {s piece : Bytes} (h : piece ∈ splitSlash s) :
    slash ∉ piece := by
  fun_induction splitSlash s generalizing piece with
  | case1 => simp_all
  | case2 bs ih =>
    obtain rfl | h := List.mem_cons.1 h
    · exact List.not_mem_nil
    · exact ih h
  | case3 b bs _ hbs => exact absurd hbs (splitSlash_ne_nil bs)
  | case4 b bs hb first rest hbs ih =>
    rw [hbs] at ih
    obtain rfl | h := List.mem_cons.1 h
    · have hfirst := ih List.mem_cons_self
      simpa [hfirst] using fun h => hb h.symm
    · exact ih (List.mem_cons_of_mem first h)

theorem joinSlash_cons (piece : Bytes) {rest : List Bytes} (h : rest ≠ []) :
    joinSlash (piece :: rest) = piece ++ slash :: joinSlash rest := by
  obtain ⟨next, rest, rfl⟩ := List.exists_cons_of_ne_nil h
  rfl

theorem splitSlash_joinSlash {pieces : List Bytes} (hne : pieces ≠ [])
    (h : ∀ piece ∈ pieces, slash ∉ piece) : splitSlash (joinSlash pieces) = pieces := by
  induction pieces with
  | nil => contradiction
  | cons piece rest ih =>
    rw [List.forall_mem_cons] at h
    by_cases hnil : rest = []
    · rw [hnil]
      exact splitSlash_of_notMem h.1
    · rw [joinSlash_cons piece hnil, splitSlash_append, ih hnil h.2, splitSlash_of_notMem h.1]
      rfl

/-- A path without a slash at its end. -/
def stem (base : Path) : Path :=
  if endsInSlash base then base.dropLast else base

/-- A relative path is put behind a slash. -/
theorem join_of_relative {base path : Path} (hbase : base ≠ []) (hpath : isAbsolute path = false) :
    join base path = stem base ++ slash :: path := by
  rw [join, hpath, stem, endsInSlash]
  cases hlast : base.getLast? with
  | none => exact absurd (List.getLast?_eq_none_iff.1 hlast) hbase
  | some b =>
    obtain ⟨front, hfront⟩ := List.getLast?_eq_some_iff.1 hlast
    by_cases hb : b = slash
    · subst hb
      simp [hfront]
    · simp [hb]

theorem names_eq_of_stem (base : Path) :
    names base = (splitSlash (stem base)).filter (· ≠ []) := by
  rw [names, stem]
  split
  · next hslash =>
    obtain ⟨front, hfront⟩ := List.getLast?_eq_some_iff.1 (beq_iff_eq.1 hslash)
    simp [hfront, splitSlash_append, splitSlash]
  · rfl

/-- A path that goes on is followed by the names of both its parts. -/
theorem names_join_of_relative {path : Path} (h : isAbsolute path = false) (base : Path) :
    names (join base path) = names base ++ names path := by
  by_cases hbase : base = []
  · subst hbase
    simp [join, h, names, splitSlash]
  · rw [names_eq_of_stem base, names, join_of_relative hbase h, splitSlash_append,
      List.filter_append]
    rfl

/-- What can stand between two slashes of a path and counts as a name. -/
def IsSegment (name : Name) : Prop :=
  name ≠ [] ∧ slash ∉ name

instance (name : Name) : Decidable (IsSegment name) :=
  inferInstanceAs (Decidable (_ ∧ _))

theorem isSegment_of_mem_names {path : Path} {name : Name} (h : name ∈ names path) :
    IsSegment name := by
  obtain ⟨hmem, hne⟩ := List.mem_filter.1 h
  exact ⟨by simpa using hne, notMem_of_mem_splitSlash hmem⟩

theorem IsSegment.isAbsolute_eq_false {name : Name} (h : IsSegment name) :
    isAbsolute name = false := by
  cases name with
  | nil => rfl
  | cons b bs =>
    have hb : b ≠ slash := fun hb => h.2 (by simp [hb])
    simp [isAbsolute, hb]

theorem names_join {name : Name} (h : IsSegment name) (base : Path) :
    names (join base name) = names base ++ [name] := by
  have hnames : names name = [name] := by simp [names, splitSlash_of_notMem h.2, h.1]
  rw [names_join_of_relative h.isAbsolute_eq_false, hnames]

end Path

namespace Place

theorem isAbsolute_path (place : Place) : Path.isAbsolute place.path = true := rfl

/-- The path of a place goes through its names. -/
theorem names_path {place : Place} (h : ∀ name ∈ place, Path.IsSegment name) :
    Path.names place.path = place := by
  rw [Path.names, path, Path.splitSlash]
  by_cases hnil : place = []
  · rw [hnil]
    rfl
  · have hkept : place.filter (· ≠ []) = place :=
      List.filter_eq_self.2 (by simpa using fun name hname => (h name hname).1)
    rw [Path.splitSlash_joinSlash hnil fun name hname => (h name hname).2,
      List.filter_cons_of_neg (by simp), hkept]

end Place

/-- A name that an entry can have. -/
def Path.IsFileName (name : Name) : Prop :=
  Path.IsEntryName name ∧ Path.IsSegment name

instance (name : Name) : Decidable (Path.IsFileName name) :=
  inferInstanceAs (Decidable (_ ∧ _))

namespace Node

theorem names_alterEntry (name : Name) (f : Option Node → Option Node) (es : Entries)
    (hf : (f (es.lookup name)).isSome = (es.lookup name).isSome) :
    (alterEntry name f es).map (·.1) = es.map (·.1) := by
  induction es with
  | nil =>
    obtain hnone : f none = none := by simpa using hf
    simp [alterEntry, hnone]
  | cons e es ih =>
    obtain ⟨n, node⟩ := e
    rw [alterEntry]
    by_cases hn : n = name
    · subst hn
      rw [List.lookup_cons_self, Option.isSome_some] at hf
      obtain ⟨node', hnode'⟩ := Option.isSome_iff_exists.1 hf
      simp [hnode']
    · rw [List.lookup_cons, beq_false_of_ne (Ne.symm hn)] at hf
      rw [if_neg hn, List.map_cons, ih hf, List.map_cons]

theorem names_alterEntry_of_lookup_eq_none {name : Name} {f : Option Node → Option Node}
    {es : Entries} (h : es.lookup name = none) (hf : (f none).isSome = true) :
    (alterEntry name f es).map (·.1) = es.map (·.1) ++ [name] := by
  induction es with
  | nil =>
    obtain ⟨node, hnode⟩ := Option.isSome_iff_exists.1 hf
    simp [alterEntry, hnode]
  | cons e es ih =>
    obtain ⟨n, node⟩ := e
    have hn : n ≠ name := by
      rintro rfl
      simp at h
    rw [List.lookup_cons, beq_false_of_ne (Ne.symm hn)] at h
    rw [alterEntry, if_neg hn, List.map_cons, ih h]
    rfl

/-- Putting a node at a place gives no directory another name but, where the place was free, that of
the node. -/
theorem names_alter {place q : Place} {new node : Node} {es' : Entries} (hq : ¬ place <+: q)
    (h : (alter place (fun _ => some new) (some node)).bind (get? q) = some (.dir es')) :
    ∃ es, get? q node = some (.dir es) ∧ (es'.map (·.1) = es.map (·.1) ∨
      ∃ name, place = q ++ [name] ∧ es.lookup name = none ∧
        es'.map (·.1) = es.map (·.1) ++ [name]) := by
  induction place generalizing q node with
  | nil => exact absurd q.nil_prefix hq
  | cons p ps ih =>
    cases node with
    | dir es =>
      rw [alter_cons_dir, Option.bind_some] at h
      cases q with
      | nil =>
        rw [get?_nil, Option.some.injEq, dir.injEq] at h
        subst h
        refine ⟨es, rfl, ?_⟩
        cases ps with
        | cons p' ps' => exact .inl (names_alterEntry p _ es (isSome_alter_cons p' ps' _ _))
        | nil =>
          cases hlookup : es.lookup p with
          | some old => exact .inl (names_alterEntry p _ es (by rw [hlookup]; rfl))
          | none =>
            exact .inr ⟨p, rfl, hlookup, names_alterEntry_of_lookup_eq_none hlookup rfl⟩
      | cons x xs =>
        rw [get?_cons_dir] at h ⊢
        by_cases hx : x = p
        · subst hx
          rw [List.cons_prefix_cons, not_and] at hq
          have hxs : ¬ ps <+: xs := hq rfl
          obtain ⟨p', ps', rfl⟩ : ∃ p' ps', ps = p' :: ps' :=
            List.exists_cons_of_ne_nil fun hnil => hxs (hnil ▸ xs.nil_prefix)
          have hsome := isSome_alter_cons p' ps' (fun _ => some new) (es.lookup x)
          cases hchild : es.lookup x with
          | none =>
            rw [lookup_alterEntry (.inr hchild), hchild] at h
            contradiction
          | some child =>
            rw [hchild, Option.isSome_some] at hsome
            rw [lookup_alterEntry (.inl (hchild ▸ hsome)), hchild] at h
            obtain ⟨es₀, hes₀, hnames⟩ := ih hxs h
            refine ⟨es₀, hes₀, hnames.imp_right ?_⟩
            rintro ⟨name, hplace, hfree⟩
            exact ⟨name, by rw [hplace, List.cons_append], hfree⟩
        · rw [lookup_alterEntry_of_ne hx] at h
          exact ⟨es', h, .inl rfl⟩
    | _ => exact ⟨es', h, .inl rfl⟩

theorem Childless.entries_eq_nil {es : Entries} (h : (Node.dir es).Childless) : es = [] := by
  cases es with
  | nil => rfl
  | cons e es =>
    obtain ⟨name, node⟩ := e
    have hfirst := h name []
    simp at hfirst

/-- What a place below a directory stands for is found by way of an entry. -/
theorem mem_of_get?_cons {name : Name} {rest : Place} {es : Entries} {node : Node}
    (h : get? (name :: rest) (.dir es) = some node) :
    ∃ child, (name, child) ∈ es ∧ get? rest child = some node := by
  obtain ⟨child, hlookup, hrest⟩ := Option.bind_eq_some_iff.1 (get?_cons_dir .. ▸ h)
  obtain ⟨front, back, rfl, -⟩ := List.lookup_eq_some_iff.1 hlookup
  exact ⟨child, by simp, hrest⟩

mutual

/-- Whether a node and all that lies below it pass a test, each with its place. -/
def passes (test : Place → Node → Bool) (here : Place) : Node → Bool
  | .dir es => test here (.dir es) && allPass test here es
  | node => test here node

def allPass (test : Place → Node → Bool) (here : Place) : Entries → Bool
  | [] => true
  | (name, node) :: rest => passes test (here ++ [name]) node && allPass test here rest

end

section passes
variable {test : Place → Node → Bool} {here place : Place} {es : Entries} {node found : Node}

theorem allPass_iff :
    allPass test here es = true ↔ ∀ e ∈ es, passes test (here ++ [e.1]) e.2 = true := by
  induction es with
  | nil => simp [allPass]
  | cons e es ih => rw [allPass, Bool.and_eq_true, ih, List.forall_mem_cons]

theorem test_of_passes (h : node.passes test here = true) : test here node = true := by
  cases node with
  | dir es =>
    rw [passes, Bool.and_eq_true] at h
    exact h.1
  | _ => exact h

/-- What is found below a node that passes has been tested. -/
theorem test_of_get? (h : node.passes test here = true) (hget : node.get? place = some found) :
    test (here ++ place) found = true := by
  induction place generalizing node here with
  | nil =>
    obtain rfl := Option.some.inj hget
    rw [List.append_nil]
    exact test_of_passes h
  | cons name place ih =>
    cases node with
    | dir es =>
      obtain ⟨child, hmem, hrest⟩ := mem_of_get?_cons hget
      rw [passes, Bool.and_eq_true, allPass_iff] at h
      have hbelow := ih (h.2 _ hmem) hrest
      rwa [List.append_assoc] at hbelow
    | _ =>
      rw [get?_cons_of_isDir_eq_false rfl] at hget
      contradiction

end passes

/-- Whether the names in a directory differ, and a path can be made of each. -/
def namesFit : Node → Bool
  | .dir es => decide ((es.map (·.1)).Nodup ∧ ∀ name ∈ es.map (·.1), Path.IsFileName name)
  | _ => true

end Node

namespace FileSystem
variable {fs : FileSystem} {path : Path} {dir : Place} {name : Name} {slash : Bool} {node : Node}

/-- The names in every directory differ, and a path can be made of each. -/
structure Proper (fs : FileSystem) : Prop where
  nodup : ∀ {dir es}, fs.node? dir = some (.dir es) → (es.map (·.1)).Nodup
  isFileName : ∀ {dir es}, fs.node? dir = some (.dir es) → ∀ name ∈ es.map (·.1),
    Path.IsFileName name

/-- The names in files that are given entry by entry are looked through. -/
theorem proper_of_passes (h : fs.root.passes (fun _ => Node.namesFit) [] = true) : fs.Proper := by
  have hnames {dir : Place} {es : Entries} (hdir : fs.node? dir = some (.dir es)) :=
    of_decide_eq_true (Node.test_of_get? h hdir)
  exact ⟨fun hdir => (hnames hdir).1, fun hdir => (hnames hdir).2⟩

/-- What stands below a place has been tested if all of it passes. -/
theorem test_of_node? (test : Place → Node → Bool) {place below : Place} {found : Node}
    (hnode : fs.node? place = some node) (h : node.passes test [] = true)
    (hfound : fs.node? (place ++ below) = some found) : test below found = true := by
  rw [node?_append, hnode, Option.bind_some] at hfound
  exact Node.test_of_get? h hfound

theorem proper_empty : Proper ⟨[]⟩ :=
  proper_of_passes (by decide)

/-- The names on the way to where a walk ends are names that entries can have. -/
theorem Walks.isFileName_of_mem_site {lastLink : LastLink} {links : ℕ}
    {here : Place} {todo : List Name} {a : Arrival} (h : Walks fs lastLink links here todo slash a)
    (htodo : ∀ name ∈ todo, Path.IsSegment name) (hhere : ∀ name ∈ here, Path.IsFileName name) :
    ∀ name ∈ a.site.1, Path.IsFileName name := by
  have hentry {here : Place} {name : Name} (hhere : ∀ name ∈ here, Path.IsFileName name)
      (hname : Path.IsFileName name) : ∀ n ∈ here ++ [name], Path.IsFileName n := by
    simpa [or_imp, forall_and, hname] using hhere
  have hup {here : Place} (hhere : ∀ name ∈ here, Path.IsFileName name) :
      ∀ name ∈ here.dropLast, Path.IsFileName name :=
    fun name hname => hhere name (List.dropLast_subset _ hname)
  induction h with
  | stay => exact hhere
  | atDot => exact hhere
  | pastDot _ _ _ ih => exact ih (List.forall_mem_cons.1 htodo).2 hhere
  | atDotDot => exact hup hhere
  | pastDotDot _ _ _ ih => exact ih (List.forall_mem_cons.1 htodo).2 (hup hhere)
  | absent _ hname => exact hentry hhere ⟨hname, htodo _ List.mem_cons_self⟩
  | last _ hname => exact hentry hhere ⟨hname, htodo _ List.mem_cons_self⟩
  | down _ hname _ _ _ _ ih =>
    exact ih (List.forall_mem_cons.1 htodo).2 (hentry hhere ⟨hname, htodo _ List.mem_cons_self⟩)
  | link _ _ _ _ _ ih =>
    refine ih (fun name hname => ?_) ?_
    · obtain hname | hname := List.mem_append.1 hname
      · exact Path.isSegment_of_mem_names hname
      · exact (List.forall_mem_cons.1 htodo).2 name hname
    · split
      · simp
      · exact hhere

/-- What is put into a directory under a name that an entry can have leaves all names proper. -/
theorem Proper.put {es : Entries} (h : fs.Proper) (hdir : fs.node? dir = some (.dir es))
    (hname : es.lookup name = none → Path.IsFileName name) (hnode : node.Childless) :
    (fs.put (dir ++ [name]) node).Proper := by
  have hnames {q : Place} {es' : Entries}
      (hq : (fs.put (dir ++ [name]) node).node? q = some (.dir es')) :
      (es'.map (·.1)).Nodup ∧ ∀ n ∈ es'.map (·.1), Path.IsFileName n := by
    by_cases hbelow : dir ++ [name] <+: q
    · -- there is nothing in what has been put there
      obtain ⟨below, rfl⟩ := hbelow
      rw [node?_put_append hdir] at hq
      have hnil : es' = [] := by
        cases below with
        | nil =>
          rw [Node.get?_nil, Option.some.injEq] at hq
          exact (hq ▸ hnode).entries_eq_nil
        | cons x xs =>
          rw [hnode] at hq
          contradiction
      simp [hnil]
    · rw [node?, ← Option.bind_some (f := Node.get? q), FileSystem.put,
        root_alter fs (entry_ne_nil dir name)] at hq
      obtain ⟨es₀, hes₀, hsame | ⟨n, hplace, hfree, hadded⟩⟩ := Node.names_alter hbelow hq
      · rw [hsame]
        exact ⟨h.nodup hes₀, h.isFileName hes₀⟩
      · obtain ⟨rfl, hn⟩ := List.append_inj' hplace rfl
        obtain rfl : name = n := by simpa using hn
        obtain rfl : es₀ = es := by
          rw [node?, hes₀, Option.some.injEq, Node.dir.injEq] at hdir
          exact hdir
        rw [List.lookup_eq_none_iff] at hfree
        rw [hadded, List.nodup_append]
        refine ⟨⟨h.nodup hes₀, by simp, ?_⟩, ?_⟩
        · rintro x hx y hy rfl
          obtain ⟨e, he, rfl⟩ := List.mem_map.1 hx
          exact absurd (List.mem_singleton.1 hy).symm (by simpa using hfree e he)
        · intro x hx
          obtain hx | hx := List.mem_append.1 hx
          · exact h.isFileName hes₀ x hx
          · rw [List.mem_singleton.1 hx]
            exact hname (List.lookup_eq_none_iff.2 hfree)
  exact ⟨fun hq => (hnames hq).1, fun hq => (hnames hq).2⟩

/-- A file beside a link that leads nowhere. -/
def besideDanglingLink : FileSystem :=
  ⟨[("a", .file [1] false), ("l", .link "nowhere")]⟩

theorem proper_besideDanglingLink : besideDanglingLink.Proper :=
  proper_of_passes (by decide)

theorem locate_fileBesideLink (lastLink : LastLink) : besideDanglingLink.locate lastLink "/a" =
    .ok (.found ["a"] (.file [1] false) .name false) := by
  have hnames : Path.names "/a" = (["a"] : Place) := by decide
  have hslash : Path.endsInSlash "/a" = false := by decide
  apply locate_of_walks (by decide) (by decide) (by decide)
  rw [hnames, hslash]
  exact .last rfl (by decide) rfl (by simp [Node.isLink])

theorem resolve_fileBesideLink : besideDanglingLink.resolve "/a" = .ok (["a"], .file [1] false) :=
  resolve_eq_ok_iff.2 ⟨_, _, locate_fileBesideLink .follow, by simp⟩

theorem locate_danglingLink :
    besideDanglingLink.locate .keep "/l" = .ok (.found ["l"] (.link "nowhere") .name false) ∧
    besideDanglingLink.locate .follow "/l" = .ok (.missing [] "nowhere" false) := by
  have hnames : Path.names "/l" = (["l"] : Place) ∧
      Path.names "nowhere" = (["nowhere"] : Place) := by decide
  have hslash : Path.endsInSlash "/l" = false ∧ Path.endsInSlash "nowhere" = false := by
    decide
  have hentry : Path.IsEntryName "l" ∧ Path.IsEntryName "nowhere" := by decide
  constructor <;> apply locate_of_walks (by decide) (by decide) (by decide) <;>
    rw [hnames.1, hslash.1]
  · exact .last rfl hentry.1 rfl (by simp [LastLink.Follows])
  · refine .link rfl hentry.1 rfl (.inr (.inl rfl)) ?_
    rw [hnames.2, hslash.2]
    exact .absent rfl hentry.2 rfl

end FileSystem
end LineShell
