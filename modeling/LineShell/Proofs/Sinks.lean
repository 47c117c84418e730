import LineShell.Proofs.Storage

/-!
# Where writing arrives

A path that can be opened for writing leads to the place of a file, be it there or not, or to a
device. What is written to a file changes what that file holds and nothing else. So every path
leads where it led before, which file it stands for does not depend on what has been written in the
meantime, and what is stored at a path is read back there.
-/
namespace LineShell

/-- Where a path leads that can be opened for writing. -/
inductive Sink where
  /-- The place of a file, be it there or not. -/
  | file (place : Place)
  | device
  deriving Repr, DecidableEq

/-- Where writing to a place arrives, given what stands there. -/
def Sink.ofNode? (place : Place) : Option Node → Option Sink
  | none => some (.file place)
  | some (.file ..) => some (.file place)
  | some .device => some .device
  | some _ => none

theorem Sink.ofNode?_map_face (place : Place) (node? : Option Node) :
    Sink.ofNode? place (node?.map Node.face) = Sink.ofNode? place node? := by
  rcases node? with _ | _ | _ | _ | _ <;> rfl

theorem Node.isFile_eq_true_iff {node : Node} :
    node.isFile = true ↔ ∃ content x, node = .file content x := by
  cases node <;> simp [isFile]

def Node.content? : Node → Option Bytes
  | .file content _ => some content
  | _ => none

theorem Node.content?_face (node : Node) : node.face.content? = node.content? := by
  cases node <;> rfl

/-- Where writing arrives after a walk. It takes a name without a slash after it. -/
def Arrival.sink? : Arrival → Option Sink
  | .found place node .name false => Sink.ofNode? place (some node)
  | .missing dir name false => Sink.ofNode? (dir ++ [name]) none
  | _ => none

namespace FileSystem

variable {fs fs' : FileSystem} {path : Path} {place : Place} {bytes : Bytes}

/-- Where writing to a path arrives, if the path can be opened for that. -/
def sink? (fs : FileSystem) (path : Path) : Option Sink :=
  (fs.locate .follow path).toOption.bind Arrival.sink?

def contentAt (fs : FileSystem) (place : Place) : Option Bytes :=
  (fs.node? place).bind Node.content?

theorem sink?_eq_some_iff {s : Sink} :
    fs.sink? path = some s ↔ ∃ a, fs.locate .follow path = .ok a ∧ a.sink? = some s := by
  rw [sink?]
  cases fs.locate .follow path <;> simp [Except.toOption]

theorem sink?_eq_file_iff :
    fs.sink? path = some (.file place) ↔ ∃ content x, Opens fs path place content x := by
  rw [sink?_eq_some_iff]
  constructor
  · rintro ⟨a, hlocate, ha⟩
    match a with
    | .found p (.file content x) .name false =>
      simp only [Arrival.sink?, Sink.ofNode?, Option.some.injEq, Sink.file.injEq] at ha
      subst ha
      exact ⟨content, x, .old hlocate⟩
    | .missing dir name false =>
      simp only [Arrival.sink?, Sink.ofNode?, Option.some.injEq, Sink.file.injEq] at ha
      subst ha
      exact ⟨[], false, .new hlocate⟩
  · rintro ⟨content, x, hopens⟩
    cases hopens with
    | old hlocate => exact ⟨_, hlocate, rfl⟩
    | new hlocate => exact ⟨_, hlocate, rfl⟩

theorem sink?_eq_device_iff :
    fs.sink? path = some .device ↔ fs.leadsToDevice path = true := by
  rw [sink?_eq_some_iff, leadsToDevice_iff]
  constructor
  · rintro ⟨a, hlocate, ha⟩
    match a with
    | .found p .device .name false => exact ⟨p, hlocate⟩
  · rintro ⟨p, hlocate⟩
    exact ⟨_, hlocate, rfl⟩

/-- Opening a file for writing fails and changes nothing, or it arrives somewhere. -/
theorem update_cases (fs : FileSystem) (path : Path) (g : Bytes → Bytes) (executable : Bool)
    (mode : Bool → Bool) : (∃ e, fs.update path g executable mode = (.error e, fs)) ∧
      fs.sink? path = none ∨
    fs.sink? path = some .device ∧ fs.update path g executable mode = (.ok (), fs) ∨
    ∃ place old x new, Opens fs path place old x ∧
      fs.update path g executable mode = (.ok (), fs.put place (.file (g old) new)) := by
  rw [sink?, update]
  cases hlocate : fs.locate .follow path with
  | error e => exact .inl ⟨⟨e, rfl⟩, rfl⟩
  | ok a =>
    cases a with
    | missing dir name slash =>
      cases slash with
      | true => exact .inl ⟨⟨_, rfl⟩, rfl⟩
      | false => exact .inr (.inr ⟨_, _, _, _, .new hlocate, rfl⟩)
    | found place node last slash =>
      cases last with
      | name =>
        cases slash with
        | true => exact .inl ⟨⟨_, rfl⟩, rfl⟩
        | false =>
          cases node with
          | file content x => exact .inr (.inr ⟨_, _, _, _, .old hlocate, rfl⟩)
          | device => exact .inr (.inl ⟨rfl, rfl⟩)
          | dir es => exact .inl ⟨⟨_, rfl⟩, rfl⟩
          | link _ =>
            have hlink := ((walks_of_walk_eq (walk_of_locate hlocate)).tells.1 _ _ _ rfl).1
            simp [Node.isLink] at hlink
      | _ => exact .inl ⟨⟨.os .isDirectory, by simp⟩, by cases slash <;> rfl⟩

/-- What cannot be opened is left alone. -/
theorem update_of_not_canOpen (h : ¬ fs.CanOpen path) (g : Bytes → Bytes) :
    ∃ e, fs.update path g = (.error e, fs) := by
  obtain ⟨herror, -⟩ | ⟨hdevice, -⟩ | ⟨place, content, x, -, hopens, -⟩ :=
    fs.update_cases path g false id
  · exact herror
  · exact absurd (by rw [CanOpen, update_of_leadsToDevice (sink?_eq_device_iff.1 hdevice)]) h
  · exact absurd (by rw [CanOpen, hopens.update_eq]) h

theorem canOpen_iff : fs.CanOpen path ↔ (fs.sink? path).isSome = true := by
  constructor
  · intro h
    obtain ⟨p, content, x, hopens⟩ | hdevice := opens_or_leadsToDevice h
    · rw [sink?_eq_file_iff.2 ⟨content, x, hopens⟩, Option.isSome_some]
    · rw [sink?_eq_device_iff.2 hdevice, Option.isSome_some]
  · intro h
    obtain ⟨s, hs⟩ := Option.isSome_iff_exists.1 h
    cases s with
    | file p =>
      obtain ⟨content, x, hopens⟩ := sink?_eq_file_iff.1 hs
      rw [CanOpen, hopens.update_eq]
    | device => rw [CanOpen, update_of_leadsToDevice (sink?_eq_device_iff.1 hs)]

/-! ## What a write changes -/

theorem SameBut.contentAt_eq (h : SameBut place fs fs') {q : Place} (hq : q ≠ place) :
    fs'.contentAt q = fs.contentAt q := by
  have hmap : ∀ node? : Option Node,
      (node?.map Node.face).bind Node.content? = node?.bind Node.content? := by
    rintro (_ | node)
    · rfl
    · exact Node.content?_face node
  rw [contentAt, contentAt, ← hmap, h q hq, hmap]

/-- Two file systems that look the same but for a file, which may be missing from either. -/
structure SameButFile (place : Place) (fs fs' : FileSystem) : Prop where
  same : SameBut place fs fs'
  before : ∀ node, fs.node? place = some node → node.isFile = true
  after : ∀ node, fs'.node? place = some node → node.isFile = true

theorem SameButFile.symm (h : SameButFile place fs fs') : SameButFile place fs' fs :=
  ⟨fun q hq => (h.same q hq).symm, h.after, h.before⟩

/-- What stands at the place of an opened file, if anything does. -/
theorem Opens.node_eq {content : Bytes} {x : Bool} (h : Opens fs path place content x) {node : Node}
    (hnode : fs.node? place = some node) : node = .file content x := by
  cases h with
  | old hlocate =>
    obtain ⟨-, -, -, -, -, -, hfile⟩ :=
      (walks_of_walk_eq (walk_of_locate hlocate)).tells.1 _ _ _ rfl
    rw [hnode, Option.some.injEq] at hfile
    exact hfile
  | new hlocate =>
    obtain ⟨-, -, hnone⟩ := (walks_of_walk_eq (walk_of_locate hlocate)).tells.2 _ _ _ rfl
    rw [hnode] at hnone
    contradiction

theorem Opens.getD_contentAt {content : Bytes} {x : Bool} (h : Opens fs path place content x) :
    (fs.contentAt place).getD [] = content := by
  rw [contentAt]
  cases hnode : fs.node? place with
  | some node =>
    rw [h.node_eq hnode]
    rfl
  | none =>
    cases h with
    | old hlocate =>
      obtain ⟨-, -, -, -, -, -, hfile⟩ :=
        (walks_of_walk_eq (walk_of_locate hlocate)).tells.1 _ _ _ rfl
      rw [hnode] at hfile
      contradiction
    | new => rfl

/-- A file that is put at the place of an opened one is there, and all else is as before. -/
theorem Opens.put {content : Bytes} {x : Bool} (h : Opens fs path place content x) (new : Bytes)
    (executable : Bool) : (fs.put place (.file new executable)).contentAt place = some new ∧
      SameButFile place fs (fs.put place (.file new executable)) := by
  obtain ⟨-, -, -, hold, dir, name, es, rfl, hdir⟩ := h.entry
  have hself := node?_put_self hdir name (.file new executable)
  have hsame : SameBut (dir ++ [name]) fs (fs.put (dir ++ [name]) (.file new executable)) :=
    sameBut_put hdir (Node.childless_of_isDir_eq_false rfl)
      fun old ho => Node.childless_of_isDir_eq_false (hold old ho).1
  refine ⟨by rw [contentAt, hself]; rfl, hsame, ?_, ?_⟩
  · intro node hnode
    rw [h.node_eq hnode]
    rfl
  · intro node hnode
    rw [hself, Option.some.injEq] at hnode
    subst hnode
    rfl

/-- What is written to a file is there afterwards, and all else is as before. -/
theorem update_of_sink?_eq_file (h : fs.sink? path = some (.file place)) (g : Bytes → Bytes) :
    ∃ after, fs.update path g = (.ok (), after) ∧
      after.contentAt place = some (g ((fs.contentAt place).getD [])) ∧
      SameButFile place fs after := by
  obtain ⟨content, x, hopens⟩ := sink?_eq_file_iff.1 h
  rw [hopens.getD_contentAt]
  exact ⟨_, hopens.update_eq g, hopens.put (g content) x⟩

/-! ## Paths lead where they led before -/

section
variable (hsame : SameButFile place fs fs')
include hsame

theorem SameButFile.exists_dir {q : Place} {es : Entries} (hq : fs.node? q = some (.dir es)) :
    ∃ es', fs'.node? q = some (.dir es') := by
  apply hsame.same.exists_dir ?_ hq
  intro old hold
  obtain ⟨content, x, rfl⟩ := Node.isFile_eq_true_iff.1 (hsame.before old hold)
  rfl

theorem SameButFile.link_eq {q : Place} {target : Path} (hq : fs.node? q = some (.link target)) :
    fs'.node? q = some (.link target) := by
  have hne : q ≠ place := by
    rintro rfl
    simpa [Node.isFile] using hsame.before _ hq
  have hface := hsame.same q hne
  rw [hq] at hface
  cases hnode : fs'.node? q with
  | none => simp [hnode] at hface
  | some node => cases node <;> simp_all [Node.face]

/-- Writing to a place arrives where it did before. -/
theorem SameButFile.ofNode?_eq (q : Place) :
    Sink.ofNode? q (fs'.node? q) = Sink.ofNode? q (fs.node? q) := by
  by_cases hq : q = place
  · subst hq
    have hfile : ∀ o : Option Node, (∀ node, o = some node → node.isFile = true) →
        Sink.ofNode? q o = some (.file q) := by
      intro o ho
      cases o with
      | none => rfl
      | some node =>
        obtain ⟨content, x, rfl⟩ := Node.isFile_eq_true_iff.1 (ho node rfl)
        rfl
    rw [hfile _ hsame.before, hfile _ hsame.after]
  · rw [← Sink.ofNode?_map_face, hsame.same q hq, Sink.ofNode?_map_face]

theorem SameButFile.contentAt_eq {q : Place} (hq : q ≠ place) :
    fs'.contentAt q = fs.contentAt q :=
  hsame.same.contentAt_eq hq

end

/-- A walk takes its last step where that can be written to. -/
theorem exists_walks_last {links : ℕ} {here : Place} {name : Name} {es : Entries} {s : Sink}
    (h : fs.node? here = some (.dir es)) (hname : Path.IsEntryName name)
    (hs : Sink.ofNode? (here ++ [name]) (fs.node? (here ++ [name])) = some s) :
    ∃ a, Walks fs .follow links here [name] false a ∧ a.sink? = some s := by
  cases hnode : fs.node? (here ++ [name]) with
  | none =>
    rw [hnode] at hs
    rw [node?_append_singleton fs h] at hnode
    exact ⟨_, .absent h hname hnode, hs⟩
  | some node =>
    rw [hnode] at hs
    rw [node?_append_singleton fs h] at hnode
    refine ⟨_, .last h hname hnode ?_, hs⟩
    cases node <;> simp_all [Sink.ofNode?, Node.isLink]

/-- A walk to what can be written to leads there also when a file has been written. -/
theorem Walks.of_sameButFile {links : ℕ} {here : Place} {todo : List Name} {slash : Bool}
    {a : Arrival} {s : Sink} (h : Walks fs .follow links here todo slash a)
    (hsame : SameButFile place fs fs') (ha : a.sink? = some s) :
    ∃ b, Walks fs' .follow links here todo slash b ∧ b.sink? = some s := by
  induction h with
  | stay => simp [Arrival.sink?] at ha
  | atDot => simp [Arrival.sink?] at ha
  | pastDot h hrest _ ih =>
    obtain ⟨es', h'⟩ := hsame.exists_dir h
    obtain ⟨b, hb, hsink⟩ := ih ha
    exact ⟨b, .pastDot h' hrest hb, hsink⟩
  | atDotDot => simp [Arrival.sink?] at ha
  | pastDotDot h hrest _ ih =>
    obtain ⟨es', h'⟩ := hsame.exists_dir h
    obtain ⟨b, hb, hsink⟩ := ih ha
    exact ⟨b, .pastDotDot h' hrest hb, hsink⟩
  | @absent links here name slash es h hname hlookup =>
    obtain ⟨es', h'⟩ := hsame.exists_dir h
    cases slash with
    | true => simp [Arrival.sink?] at ha
    | false =>
      apply exists_walks_last h' hname
      rw [hsame.ofNode?_eq, node?_append_singleton fs h, hlookup]
      exact ha
  | @last links here name slash es node h hname hlookup _ =>
    obtain ⟨es', h'⟩ := hsame.exists_dir h
    cases slash with
    | true => simp [Arrival.sink?] at ha
    | false =>
      apply exists_walks_last h' hname
      rw [hsame.ofNode?_eq, node?_append_singleton fs h, hlookup]
      exact ha
  | down h hname _ _ hrest hnext ih =>
    obtain ⟨es', h'⟩ := hsame.exists_dir h
    obtain ⟨below, hbelow⟩ := hnext.exists_dir hrest
    obtain ⟨below', hbelow'⟩ := hsame.exists_dir hbelow
    rw [node?_append_singleton fs' h'] at hbelow'
    obtain ⟨b, hb, hsink⟩ := ih ha
    exact ⟨b, .down h' hname hbelow' rfl hrest hb, hsink⟩
  | link h hname hlookup hfollows _ ih =>
    obtain ⟨es', h'⟩ := hsame.exists_dir h
    have hlink := hsame.link_eq ((node?_append_singleton fs h _).trans hlookup)
    rw [node?_append_singleton fs' h'] at hlink
    obtain ⟨b, hb, hsink⟩ := ih ha
    exact ⟨b, .link h' hname hlink hfollows hb, hsink⟩

theorem SameButFile.sink?_eq_some (hsame : SameButFile place fs fs') {s : Sink}
    (h : fs.sink? path = some s) : fs'.sink? path = some s := by
  rw [sink?_eq_some_iff] at h ⊢
  obtain ⟨a, hlocate, ha⟩ := h
  obtain ⟨b, hb, hsink⟩ := (walks_of_walk_eq (walk_of_locate hlocate)).of_sameButFile hsame ha
  exact ⟨b, locate_of_walk hlocate hb.walk_eq, hsink⟩

/-- Every path leads where it led before a file was written. -/
theorem SameButFile.sink?_eq (hsame : SameButFile place fs fs') (path : Path) :
    fs'.sink? path = fs.sink? path := by
  ext s
  exact ⟨hsame.symm.sink?_eq_some, hsame.sink?_eq_some⟩

/-! ## What is read -/

/-- What has something below it is a directory. -/
theorem isDir_of_node?_below {name : Name} {rest : Place} {node below : Node}
    (hplace : fs.node? place = some node) (h : fs.node? (place ++ name :: rest) = some below) :
    node.isDir = true := by
  rw [node?_append, hplace, Option.bind_some] at h
  by_contra hdir
  rw [Node.get?_cons_of_isDir_eq_false (by simpa using hdir)] at h
  contradiction

/-- What lies above an entry is a directory, and so is the root. -/
theorem isDir_of_node?_dropLast {here : Place} {node parent : Node} (h : fs.node? here = some node)
    (hparent : fs.node? here.dropLast = some parent) : parent.isDir = true := by
  obtain rfl | ⟨dir, name, rfl⟩ := here.eq_nil_or_concat
  · obtain rfl : fs.root = parent := Option.some.inj hparent
    rfl
  · rw [List.concat_eq_append, List.dropLast_concat] at hparent
    rw [List.concat_eq_append] at h
    exact isDir_of_node?_below hparent h

/-- Where a walk ends by no name is a directory. -/
theorem Walks.isDir_of_last_ne {lastLink : LastLink} {links : ℕ} {here : Place}
    {todo : List Name} {slash : Bool} {a : Arrival}
    (h : Walks fs lastLink links here todo slash a)
    (hhere : ∃ es, fs.node? here = some (.dir es)) {place : Place} {node : Node} {last : LastStep}
    {s : Bool} (ha : a = .found place node last s) (hlast : last ≠ .name) : node.isDir = true := by
  induction h with
  | stay hnode =>
    obtain ⟨es, hes⟩ := hhere
    rw [hnode, Option.some.injEq] at hes
    cases ha
    subst hes
    rfl
  | atDot =>
    cases ha
    rfl
  | pastDot _ _ _ ih => exact ih hhere ha
  | atDotDot hnode hparent =>
    cases ha
    exact isDir_of_node?_dropLast hnode hparent
  | pastDotDot hnode hrest hnext ih => exact ih (hnext.exists_dir hrest) ha
  | absent => contradiction
  | last =>
    cases ha
    contradiction
  | down hnode hname hlookup hlink hrest hnext ih => exact ih (hnext.exists_dir hrest) ha
  | link hnode hname hlookup hfollows hnext ih =>
    apply ih _ ha
    split
    · exact ⟨_, rfl⟩
    · exact ⟨_, hnode⟩

/-- What can be read is a file or a device, and no slash comes after its name. -/
theorem exists_locate_of_read (h : fs.read path = .ok bytes) :
    ∃ place node, fs.locate .follow path = .ok (.found place node .name false) ∧
      fs.node? place = some node ∧
      ((∃ x, node = .file bytes x) ∨ (node = .device ∧ bytes = [])) := by
  rw [read, resolve] at h
  cases hlocate : fs.locate .follow path with
  | error e => simp [hlocate, bind, Except.bind] at h
  | ok a =>
    cases a with
    | missing dir name slash => simp [hlocate, ofArrival, bind, Except.bind] at h
    | found place node last slash =>
      have hwalks := walks_of_walk_eq (walk_of_locate hlocate)
      simp only [hlocate, ofArrival, bind, Except.bind] at h
      have hdir : node.isDir = false := by
        cases node with
        | dir es => simp [Node.isDir] at h
        | _ => rfl
      obtain rfl : last = .name := by
        by_contra hlast
        have hisDir := hwalks.isDir_of_last_ne ⟨_, rfl⟩ rfl hlast
        rw [hdir] at hisDir
        contradiction
      obtain rfl : slash = false := by
        cases slash with
        | true => simp [hdir] at h
        | false => rfl
      obtain ⟨hlink, -, -, -, -, -, hnode⟩ := hwalks.tells.1 _ _ _ rfl
      refine ⟨place, node, rfl, hnode, ?_⟩
      cases node with
      | dir => contradiction
      | link => contradiction
      | device => exact .inr ⟨rfl, by simpa using h.symm⟩
      | file content x => exact .inl ⟨x, by simpa using h⟩

/-- What is read at a path is what the file holds that it leads to; a device gives nothing. -/
theorem read_eq_ok_iff : fs.read path = .ok bytes ↔
    (∃ place, fs.sink? path = some (.file place) ∧ fs.contentAt place = some bytes) ∨
      (fs.sink? path = some .device ∧ bytes = []) := by
  constructor
  · intro h
    obtain ⟨place, node, hlocate, hnode, ⟨x, rfl⟩ | ⟨rfl, rfl⟩⟩ := exists_locate_of_read h
    · refine .inl ⟨place, sink?_eq_some_iff.2 ⟨_, hlocate, rfl⟩, ?_⟩
      rw [contentAt, hnode]
      rfl
    · exact .inr ⟨sink?_eq_some_iff.2 ⟨_, hlocate, rfl⟩, rfl⟩
  · rintro (⟨place, hsink, hcontent⟩ | ⟨hsink, rfl⟩)
    · obtain ⟨content, x, hopens⟩ := sink?_eq_file_iff.1 hsink
      obtain rfl : content = bytes := by rw [← hopens.getD_contentAt, hcontent, Option.getD_some]
      cases hopens with
      | old hlocate => simp [read, resolve, hlocate, ofArrival, bind, Except.bind]
      | new hlocate =>
        obtain ⟨-, -, hnone⟩ := (walks_of_walk_eq (walk_of_locate hlocate)).tells.2 _ _ _ rfl
        rw [contentAt, hnone] at hcontent
        contradiction
    · exact read_of_leadsToDevice (sink?_eq_device_iff.1 hsink)

theorem readText_eq_ok_iff {text : String} : fs.readText path = .ok text ↔
    (∃ place, fs.sink? path = some (.file place) ∧
      (fs.contentAt place).bind Utf8.decode? = some text) ∨
    (fs.sink? path = some .device ∧ text = "") := by
  have hread : fs.readText path = .ok text ↔
      ∃ bytes, fs.read path = .ok bytes ∧ Utf8.decode? bytes = some text := by
    rw [readText]
    cases fs.read path with
    | error e => simp [bind, Except.bind]
    | ok bytes => cases hdecode : Utf8.decode? bytes <;> simp [bind, Except.bind, hdecode]
  have hempty : Utf8.decode? [] = some "" := Utf8.decode?_encode ""
  rw [hread]
  constructor
  · rintro ⟨bytes, hbytes, hdecode⟩
    obtain ⟨place, hsink, hcontent⟩ | ⟨hsink, rfl⟩ := read_eq_ok_iff.1 hbytes
    · exact .inl ⟨place, hsink, by rw [hcontent, Option.bind_some, hdecode]⟩
    · rw [hempty, Option.some.injEq] at hdecode
      exact .inr ⟨hsink, hdecode.symm⟩
  · rintro (⟨place, hsink, hcontent⟩ | ⟨hsink, rfl⟩)
    · obtain ⟨bytes, hbytes, hdecode⟩ := Option.bind_eq_some_iff.1 hcontent
      exact ⟨bytes, read_eq_ok_iff.2 (.inl ⟨place, hsink, hbytes⟩), hdecode⟩
    · exact ⟨[], read_eq_ok_iff.2 (.inr ⟨hsink, rfl⟩), hempty⟩

/-- What is written to a path that leads to no device is read back, and everything else looks as it
did. -/
theorem read_update (h : fs.CanOpen path) (hdevice : fs.leadsToDevice path = false)
    (g : Bytes → Bytes) :
    ∃ place fs', fs.update path g = (.ok (), fs') ∧ fs'.read path = .ok (g (fs.content path)) ∧
      SameBut place fs fs' := by
  obtain ⟨place, content, x, hopens⟩ := (opens_or_leadsToDevice h).resolve_right (by simp [hdevice])
  have hsink := sink?_eq_file_iff.2 ⟨content, x, hopens⟩
  obtain ⟨after, hupdate, hcontent, hsame⟩ := update_of_sink?_eq_file hsink g
  rw [hopens.getD_contentAt, ← hopens.content_eq] at hcontent
  have hread := read_eq_ok_iff.2 (.inl ⟨place, (hsame.sink?_eq path).trans hsink, hcontent⟩)
  exact ⟨place, after, hupdate, hread, hsame.same⟩

end FileSystem
end LineShell
