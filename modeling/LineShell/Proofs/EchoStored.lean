import LineShell.Proofs.EchoText
import LineShell.Proofs.Idle

/-!
# What is echoed is what is stored

Any text can be echoed to the terminal, and to every file that can be opened, and is read back from
there. A device is not such a file: it can be opened, but keeps nothing. What a list of words comes
to on the terminal is what a file holds afterwards exactly when no word before the last ends inside
of an escape with a brace, or when some word cannot be decoded at all.
-/
namespace LineShell
namespace Dispatch

variable {σ : Type} {sys : System σ} {shell : Shell σ} {text name : String} {mode : RedirectMode}

/-- Handling a line that echoes words with a redirection to a name between double quotes. -/
def echoTo (sys : System σ) (words : List String) (mode : RedirectMode) (name : String)
    (shell : Shell σ) : Dispatch × Shell σ :=
  ofLine sys (redirectedEcho words mode (Token.quote name)) shell

/-- A text that is echoed to a name is there, alone or after what was there, and is read back
without the blanks at its end. -/
structure Stores (sys : System σ) (shell : Shell σ) (text name : String) : Prop where
  replaced : (echoTo sys [Escape.written text] .truncate name shell).2.world.files.read
    (shell.pathOf name) = .ok (Utf8.encode (text ++ "\n"))
  appended : (echoTo sys [Escape.written text] .append name shell).2.world.files.read
    (shell.pathOf name) =
      .ok (shell.world.files.content (shell.pathOf name) ++ Utf8.encode (text ++ "\n"))
  readBack : (echoTo sys [] .readFrom name
    (echoTo sys [Escape.written text] .truncate name shell).2).1 = .report (Text.trimEnd text)

/-- A text that is echoed to a name changes no file, and nothing is read back. -/
structure Drops (sys : System σ) (shell : Shell σ) (text name : String) : Prop where
  unchanged : ∀ mode, mode ≠ .readFrom →
    (echoTo sys [Escape.written text] mode name shell).2.world.files = shell.world.files
  readBack : (echoTo sys [] .readFrom name
    (echoTo sys [Escape.written text] .truncate name shell).2).1 = .report ""

theorem targetPath_quote (hne : name ≠ "") (hq : '"' ∉ name.toList) :
    targetPath shell (Token.quote name) = shell.pathOf name := by
  rw [targetPath, (isTarget_quote hne hq).2]

theorem echoTo_eq {words : List String} {report : Report} {after : Shell σ} (hne : name ≠ "")
    (hq : '"' ∉ name.toList)
    (h : outcome sys (redirectedEcho words mode (Token.quote name)) shell = (report, after)) :
    echoTo sys words mode name shell =
      conclude (redirectedEcho words mode (Token.quote name)) report after := by
  have ht := (isTarget_quote hne hq).1
  rw [echoTo, ofLine_eq sys shell (trim_redirectedEcho_ne words mode ht), h,
    EchoLine.trim_redirectedEcho words mode ht]

theorem quoteFree_written (text : String) : ∀ w ∈ [Escape.written text], '"' ∉ w.toList := by
  intro w hw
  rw [List.mem_singleton.1 hw]
  exact Escape.quote_notMem_written text

theorem unescape_intercalate_written (text : String) :
    unescape (" ".intercalate [Escape.written text]) = .ok text := by
  rw [String.intercalate_singleton, Escape.unescape_written]

/-- A written text that goes to a file is held by it, and the shell is otherwise in the same
directory. -/
theorem echoTo_file (hne : name ≠ "") (hq : '"' ∉ name.toList) (hmode : mode ≠ .readFrom)
    (hopen : shell.world.files.CanOpen (shell.pathOf name))
    (hdevice : shell.world.files.leadsToDevice (shell.pathOf name) = false) :
    let after := (echoTo sys [Escape.written text] mode name shell).2
    after.pathOf name = shell.pathOf name ∧ after.world.files.read (shell.pathOf name) =
      .ok (Redirection.kept mode (shell.world.files.content (shell.pathOf name)) ++
        Utf8.encode (text ++ "\n")) := by
  have ht := (isTarget_quote hne hq).1
  have hpath : targetPath shell (Token.quote name) = shell.pathOf name := targetPath_quote hne hq
  rw [← hpath] at hopen hdevice
  obtain ⟨place, files, houtcome, hread, -⟩ := outcome_of_file (quoteFree_written text) ht hmode
    (unescape_intercalate_written text) hopen hdevice
  rw [hpath] at hread
  rw [echoTo_eq hne hq houtcome]
  exact ⟨rfl, hread⟩

/-- What is read back from a name that holds a text. -/
theorem echoTo_readFrom (hne : name ≠ "") (hq : '"' ∉ name.toList)
    (hread : shell.world.files.read (shell.pathOf name) = .ok (Utf8.encode text)) :
    (echoTo sys [] .readFrom name shell).1 = .report (Text.trimEnd text) := by
  rw [← targetPath_quote hne hq] at hread
  have houtcome : outcome sys (redirectedEcho [] .readFrom (Token.quote name)) shell =
      (.ok (.text (Text.trimEnd text)), shell) := outcome_readFrom (isTarget_quote hne hq).1 hread
  rw [echoTo_eq hne hq houtcome]
  rfl

theorem stores_of_file (hne : name ≠ "") (hq : '"' ∉ name.toList)
    (hopen : shell.world.files.CanOpen (shell.pathOf name))
    (hdevice : shell.world.files.leadsToDevice (shell.pathOf name) = false) :
    Stores sys shell text name := by
  obtain ⟨hpath, hreplaced⟩ := echoTo_file hne hq (by decide : RedirectMode.truncate ≠ .readFrom)
    hopen hdevice
  obtain ⟨-, happended⟩ := echoTo_file hne hq (by decide : RedirectMode.append ≠ .readFrom)
    hopen hdevice
  refine ⟨hreplaced, happended, ?_⟩
  rw [← Text.trimEnd_append_newline text]
  apply echoTo_readFrom hne hq
  rw [hpath]
  exact hreplaced

theorem drops_of_device (hne : name ≠ "") (hq : '"' ∉ name.toList)
    (hdevice : shell.world.files.leadsToDevice (shell.pathOf name) = true) :
    Drops sys shell text name := by
  have ht := (isTarget_quote hne hq).1
  have hpath : targetPath shell (Token.quote name) = shell.pathOf name := targetPath_quote hne hq
  have hafter {mode : RedirectMode} (hmode : mode ≠ .readFrom) :
      echoTo sys [Escape.written text] mode name shell = conclude
        (redirectedEcho [Escape.written text] mode (Token.quote name)) (.ok .silent) shell :=
    echoTo_eq hne hq (outcome_of_device (quoteFree_written text) ht hmode
      (unescape_intercalate_written text) (hpath.symm ▸ hdevice))
  have hnothing : Text.trimEnd "" = "" := by decide
  constructor
  · intro mode hmode
    rw [hafter hmode]
    rfl
  · rw [hafter (by decide)]
    generalize redirectedEcho [Escape.written text] .truncate (Token.quote name) = line
    have hread : (conclude line (.ok .silent) shell).2.world.files.read
        ((conclude line (.ok .silent) shell).2.pathOf name) = .ok (Utf8.encode "") :=
      FileSystem.read_of_leadsToDevice hdevice
    rw [echoTo_readFrom hne hq hread, hnothing]

/-- Any text can be echoed to the terminal, and to any name that can be opened. What is not a device
holds it then. -/
theorem ofLine_echo_written (sys : System σ) (shell : Shell σ) (text : String) :
    (ofLine sys (echoLine [Escape.written text]) shell).1 = .report text ∧
      ∀ name, name ≠ "" → '"' ∉ name.toList →
        shell.world.files.CanOpen (shell.pathOf name) →
        if shell.world.files.leadsToDevice (shell.pathOf name) then Drops sys shell text name
        else Stores sys shell text name := by
  have hne : [Escape.written text] ≠ [] := List.cons_ne_nil _ _
  constructor
  · rw [ofLine_eq sys shell (trim_echoLine_ne hne),
      outcome_echoLine sys shell hne (quoteFree_written text)]
    simp [Builtin.runEcho, Builtin.unescapeAll, Except.map, conclude]
  · intro name hname hq hopen
    split_ifs with hdevice
    · exact drops_of_device hname hq hdevice
    · exact stores_of_file hname hq hopen (by simpa using hdevice)

theorem stores_quote_and_slash :
    (ofLine System.idle (echoLine [Escape.written "\"a\\ > b\n"]) (Shell.startIn ⟨[]⟩)).1 =
        .report "\"a\\ > b\n" ∧
      Stores System.idle (Shell.startIn ⟨[]⟩) "\"a\\ > b\n" "f" := by
  obtain ⟨hshown, hstored⟩ :=
    ofLine_echo_written System.idle (Shell.startIn ⟨[]⟩) "\"a\\ > b\n"
  have hpath : (Shell.startIn ⟨[]⟩).pathOf "f" = "/f" := by decide
  have h := hstored "f" (by decide) (by decide) (hpath.symm ▸ FileSystem.canOpen_new)
  have hdevice : (Shell.startIn ⟨[]⟩).world.files.leadsToDevice
      ((Shell.startIn ⟨[]⟩).pathOf "f") = false := hpath.symm ▸ FileSystem.leadsToDevice_new
  rw [hdevice, if_neg Bool.false_ne_true] at h
  exact ⟨hshown, h⟩

/-- A device can be opened, but what is echoed to it is lost. -/
theorem not_stores_device :
    "/dev/null" ≠ "" ∧ '"' ∉ "/dev/null".toList ∧
      FileSystem.withDevice.CanOpen ((Shell.startIn .withDevice).pathOf "/dev/null") ∧
      ¬ Stores System.idle (Shell.startIn .withDevice) "x" "/dev/null" := by
  have hpath : (Shell.startIn .withDevice).pathOf "/dev/null" = "/dev/null" := by decide
  have hdevice : (Shell.startIn .withDevice).world.files.leadsToDevice
      ((Shell.startIn .withDevice).pathOf "/dev/null") = true :=
    hpath.symm ▸ FileSystem.leadsToDevice_withDevice
  refine ⟨by decide, by decide, hpath.symm ▸ FileSystem.canOpen_withDevice, fun h => ?_⟩
  have hdrops : Drops System.idle (Shell.startIn .withDevice) "x" "/dev/null" :=
    drops_of_device (by decide) (by decide) hdevice
  have hread := h.replaced
  rw [hdrops.unchanged .truncate (by decide), FileSystem.read_of_leadsToDevice hdevice] at hread
  exact absurd hread (by decide)

/-- The terminal shows a text just when the file holds it afterwards, with a line feed, and one of
the two lines has an escape that cannot be decoded just when the other has. -/
structure Agrees (sys : System σ) (shell : Shell σ) (words : List String) (target : String) :
    Prop where
  text : ∀ t, (outcome sys (echoLine words) shell).1 = .ok (.text t) ↔
    (outcome sys (redirectedEcho words .truncate target) shell).1 = .ok .silent ∧
      (outcome sys (redirectedEcho words .truncate target) shell).2.world.files.read
        (targetPath shell target) = .ok (Utf8.encode (t ++ "\n"))
  fault : (∃ e, (outcome sys (echoLine words) shell).1 = .error (.escape e)) ↔
    ∃ e, (outcome sys (redirectedEcho words .truncate target) shell).1 = .error (.escape e)

section
variable {words : List String} {target : String}

theorem outcome_echoLine_of_error (hne : words ≠ []) (hq : ∀ w ∈ words, '"' ∉ w.toList)
    {e : EscapeError} (h : Builtin.unescapeAll words = .error e) :
    outcome sys (echoLine words) shell = (.error (.escape e), shell) := by
  rw [outcome_echoLine sys shell hne hq, Builtin.runEcho, h]
  simp [hne]

theorem outcome_echoLine_of_ok (hne : words ≠ []) (hq : ∀ w ∈ words, '"' ∉ w.toList)
    {texts : List String} (h : Builtin.unescapeAll words = .ok texts) :
    outcome sys (echoLine words) shell = (.ok (.text (" ".intercalate texts)), shell) := by
  rw [outcome_echoLine sys shell hne hq, Builtin.runEcho, h]
  simp [hne]

/-- Words of which one cannot be decoded are refused everywhere. -/
theorem agrees_of_error (hne : words ≠ []) (hq : ∀ w ∈ words, '"' ∉ w.toList) (ht : IsTarget target)
    {e : EscapeError} (h : Builtin.unescapeAll words = .error e) :
    Agrees sys shell words target := by
  obtain ⟨e', he'⟩ := Escape.exists_unescape_intercalate_eq_error hne (.inl ⟨e, h⟩)
  have hstored : outcome sys (redirectedEcho words .truncate target) shell =
      (.error (.escape e'), shell) := outcome_of_unescape_error hq ht (by decide) he'
  constructor
  · intro t
    rw [outcome_echoLine_of_error hne hq h, hstored]
    simp
  · rw [outcome_echoLine_of_error hne hq h, hstored]
    simp

/-- Words that are decoded one by one, but not together, are shown but not stored. -/
theorem not_agrees_of_leavesOpen (hne : words ≠ []) (hq : ∀ w ∈ words, '"' ∉ w.toList)
    (ht : IsTarget target) {texts : List String} (h : Builtin.unescapeAll words = .ok texts)
    (hopen : ¬ ∀ w ∈ words.dropLast, Escape.leavesOpen w.toList = false) :
    ¬ Agrees sys shell words target := by
  obtain ⟨e, he⟩ := Escape.exists_unescape_intercalate_eq_error hne (.inr hopen)
  have hstored : outcome sys (redirectedEcho words .truncate target) shell =
      (.error (.escape e), shell) := outcome_of_unescape_error hq ht (by decide) he
  intro hagrees
  have hfault := hagrees.fault.2 ⟨e, by rw [hstored]⟩
  rw [outcome_echoLine_of_ok hne hq h] at hfault
  simp at hfault

theorem encode_line_inj {a b : String} :
    Utf8.encode (a ++ "\n") = Utf8.encode (b ++ "\n") ↔ a = b := by
  constructor
  · intro h
    have hdecoded := Utf8.decode?_encode (a ++ "\n")
    rw [h, Utf8.decode?_encode, Option.some.injEq] at hdecoded
    have hlist := congrArg String.toList hdecoded
    rw [String.toList_append, String.toList_append, List.append_cancel_right_eq] at hlist
    exact (String.toList_injective hlist).symm
  · rintro rfl
    rfl

theorem agrees_of_file (hne : words ≠ []) (hq : ∀ w ∈ words, '"' ∉ w.toList) (ht : IsTarget target)
    (hopen : shell.world.files.CanOpen (targetPath shell target))
    (hdevice : shell.world.files.leadsToDevice (targetPath shell target) = false)
    {texts : List String} (h : Builtin.unescapeAll words = .ok texts)
    (hclosed : ∀ w ∈ words.dropLast, Escape.leavesOpen w.toList = false) :
    Agrees sys shell words target := by
  obtain ⟨place, files, hstored, hread, -⟩ := outcome_of_file hq ht
    (by decide : RedirectMode.truncate ≠ .readFrom)
    (Escape.unescape_intercalate_of_ok hne h hclosed) hopen hdevice
  constructor
  · intro t
    rw [outcome_echoLine_of_ok hne hq h, hstored, hread]
    simp [Redirection.kept, encode_line_inj]
  · rw [outcome_echoLine_of_ok hne hq h, hstored]
    simp

theorem not_agrees_of_device (hne : words ≠ []) (hq : ∀ w ∈ words, '"' ∉ w.toList)
    (ht : IsTarget target)
    (hdevice : shell.world.files.leadsToDevice (targetPath shell target) = true)
    {texts : List String} (h : Builtin.unescapeAll words = .ok texts)
    (hclosed : ∀ w ∈ words.dropLast, Escape.leavesOpen w.toList = false) :
    ¬ Agrees sys shell words target := by
  intro hagrees
  have hstored : outcome sys (redirectedEcho words .truncate target) shell = (.ok .silent, shell) :=
    outcome_of_device hq ht (by decide) (Escape.unescape_intercalate_of_ok hne h hclosed) hdevice
  have hshown := (hagrees.text (" ".intercalate texts)).1 (by rw [outcome_echoLine_of_ok hne hq h])
  rw [hstored, FileSystem.read_of_leadsToDevice hdevice] at hshown
  have hnothing : Utf8.decode? [] = some (" ".intercalate texts ++ "\n") := by
    rw [Except.ok.inj hshown.2, Utf8.decode?_encode]
  have hempty : Utf8.decode? [] = some "" := Utf8.decode?_encode ""
  rw [hempty, Option.some.injEq] at hnothing
  simpa using congrArg String.toList hnothing

theorem unescapeAll_eq_error_iff :
    (∃ e, Builtin.unescapeAll words = .error e) ↔ ∃ w ∈ words, ∃ e, unescape w = .error e := by
  induction words with
  | nil => simp [Builtin.unescapeAll]
  | cons w ws ih =>
    rw [Builtin.unescapeAll]
    simp only [List.mem_cons, exists_eq_or_imp, ← ih]
    cases unescape w with
    | error e => simp
    | ok text => cases Builtin.unescapeAll ws <;> simp [Except.map]

/-- The terminal and a file agree on words exactly when one of them cannot be decoded, or the file
is no device and no word before the last leaves a brace open. -/
theorem agrees_iff (sys : System σ) (hne : words ≠ []) (hq : ∀ w ∈ words, '"' ∉ w.toList)
    (ht : IsTarget target) (hopen : shell.world.files.CanOpen (targetPath shell target)) :
    Agrees sys shell words target ↔
      (∃ w ∈ words, ∃ e, unescape w = .error e) ∨
        (shell.world.files.leadsToDevice (targetPath shell target) = false ∧
          ∀ w ∈ words.dropLast, Escape.leavesOpen w.toList = false) := by
  rw [← unescapeAll_eq_error_iff]
  cases h : Builtin.unescapeAll words with
  | error e => simpa using agrees_of_error hne hq ht h
  | ok texts =>
    have hno : ¬ ∃ e : EscapeError, (Except.ok texts : Except EscapeError _) = .error e := by simp
    rw [or_iff_right hno]
    constructor
    · intro hagrees
      have hclosed : ∀ w ∈ words.dropLast, Escape.leavesOpen w.toList = false := by
        by_contra hnot
        exact not_agrees_of_leavesOpen hne hq ht h hnot hagrees
      refine ⟨?_, hclosed⟩
      by_contra hdevice
      exact not_agrees_of_device hne hq ht (by simpa using hdevice) h hclosed hagrees
    · rintro ⟨hdevice, hclosed⟩
      exact agrees_of_file hne hq ht hopen hdevice h hclosed

end

theorem isTarget_f : IsTarget "f" := by
  refine ⟨?_, by decide, by decide, by decide⟩
  constructor <;> simp <;> decide

theorem pathOf_f : targetPath (Shell.startIn ⟨[]⟩) "f" = "/f" := by
  decide

theorem agrees_with_line_feed : Agrees System.idle (Shell.startIn ⟨[]⟩) ["a\\n", "b"] "f" := by
  have hopen : (Shell.startIn ⟨[]⟩).world.files.CanOpen (targetPath (Shell.startIn ⟨[]⟩) "f") :=
    pathOf_f.symm ▸ FileSystem.canOpen_new
  refine (agrees_iff System.idle (by decide) (by decide) isTarget_f hopen).2 (.inr ⟨?_, ?_⟩)
  · exact pathOf_f.symm ▸ FileSystem.leadsToDevice_new
  · decide +kernel

/-- A brace that is not closed in its word is decoded on the terminal, but refused for a file. -/
theorem not_agrees_open_brace :
    ¬ Agrees System.idle (Shell.startIn ⟨[]⟩) ["\\u\x7b41", "b"] "f" := by
  have hwords : Builtin.unescapeAll ["\\u\x7b41", "b"] = .ok ["A", "b"] := by decide +kernel
  exact not_agrees_of_leavesOpen (by decide) (by decide) isTarget_f hwords (by decide +kernel)

end Dispatch
end LineShell
