import LineShell.Proofs.Settled

/-!
# The first malformed escape

Decoding fails at the first escape whose digits are wrong, and only there. What stands in front of
that escape is settled: it decodes, it decodes to the same whatever follows it, and a fault after it
is found just where it would be found in a text of its own. A text in which no backslash begins an
escape decodes to itself.
-/
namespace LineShell
namespace Escape

/-- A text divided at a fault: what is in front of it, the escape, and what comes after its
letter. -/
structure FaultAt (s : List Char) (fault : EscapeFault) (front body cs : List Char) : Prop where
  text : s = front ++ '\\' :: fault.kind :: body
  index : fault.index = front.length
  settled : Settled front cs
  kind : isCodepointKind fault.kind = true
  malformed : (codepoint fault.kind body).1 = .error fault.cause

/-- A settled piece in front of a fault moves the fault by its length. -/
theorem FaultAt.behind {piece ds s front body cs : List Char} {fault : EscapeFault}
    (hpiece : Settled piece ds) (h : FaultAt s fault front body cs) :
    FaultAt (piece ++ s) { fault with index := fault.index + piece.length } (piece ++ front) body
      (ds ++ cs) where
  text := by rw [h.text, List.append_assoc]
  index := by rw [List.length_append, h.index, Nat.add_comm]
  settled := hpiece.append h.settled
  kind := h.kind
  malformed := h.malformed

/-- A fault behind a settled piece is a fault of what is behind it. -/
theorem Settled.exists_error {piece cs rest : List Char} {fault : EscapeFault}
    (hpiece : Settled piece cs) (h : decode (piece ++ rest) = .error fault) :
    ∃ later, decode rest = .error later ∧
      fault = { later with index := later.index + piece.length } := by
  rw [hpiece rest] at h
  cases hrest : decode rest with
  | ok more => simp [hrest, resume] at h
  | error later =>
    rw [hrest, resume, Except.error.injEq] at h
    exact ⟨later, rfl, h.symm⟩

/-- Where decoding fails, the text has an escape whose digits are wrong, with nothing in front of it
but what is settled. -/
theorem exists_faultAt {s : List Char} {fault : EscapeFault} (h : decode s = .error fault) :
    ∃ front body cs, FaultAt s fault front body cs := by
  have step {piece ds rest : List Char} (hpiece : Settled piece ds)
      (ih : ∀ {fault}, decode rest = .error fault →
        ∃ front body cs, FaultAt rest fault front body cs)
      {fault : EscapeFault} (h : decode (piece ++ rest) = .error fault) :
      ∃ front body cs, FaultAt (piece ++ rest) fault front body cs := by
    obtain ⟨later, hlater, rfl⟩ := hpiece.exists_error h
    obtain ⟨front, body, cs, hfault⟩ := ih hlater
    exact ⟨_, _, _, hfault.behind hpiece⟩
  induction s using decode.induct generalizing fault with
  | case1 => simp at h
  | case2 k rest c hletter ih => exact step (.letter hletter) ih h
  | case3 k rest hletter hk c count hread ih =>
    have hcount : count ≤ rest.length := by
      by_contra hlong
      have hdrop : rest.drop count = [] := List.drop_eq_nil_of_le (by omega)
      rw [decode_codepoint hk, hread] at h
      simp [hdrop, emit] at h
    have hsplit : '\\' :: k :: rest = ('\\' :: k :: rest.take count) ++ rest.drop count := by
      rw [List.cons_append, List.cons_append, List.take_append_drop]
    rw [hsplit] at h ⊢
    exact step (.codepoint hk hread hcount) ih h
  | case4 k rest hletter hk cause count hread =>
    rw [decode_codepoint hk, hread, Except.error.injEq] at h
    subst h
    exact ⟨[], rest, [], rfl, rfl, .nil, hk, by rw [hread]⟩
  | case5 k rest hletter hk ih =>
    have hk' : isCodepointKind k = false := by simpa using hk
    rw [decode_other hletter hk'] at h
    cases hrest : decode (k :: rest) with
    | ok more => simp [hrest, emit] at h
    | error later =>
      rw [hrest, emit, Except.error.injEq] at h
      subst h
      obtain ⟨front, body, cs, hfault⟩ := ih hrest
      -- the fault is not at `k`, which is no backslash, so the front has settled what `k` begins
      cases front with
      | nil =>
        have hslash : k = '\\' := by simpa using (List.cons.inj hfault.text).1
        rw [hslash] at hletter
        contradiction
      | cons d front =>
        obtain ⟨rfl, htail⟩ := List.cons.inj hfault.text
        exact ⟨'\\' :: k :: front, body, '\\' :: cs, by rw [htail]; rfl,
          by rw [hfault.index]; rfl, .other hletter hk' hfault.settled, hfault.kind,
          hfault.malformed⟩
  | case6 c rest hplain ih =>
    have hlone : decode (c :: rest) = emit 1 c (decode rest) := by rw [decode]; exact hplain
    by_cases hc : c = '\\'
    · -- only a backslash at the end of a text comes here
      cases rest with
      | nil => simp [hlone, emit] at h
      | cons k rest => exact absurd rfl (hplain k rest hc)
    · exact step (.plain hc) ih h

/-- The characters that begin an escape after a backslash. -/
def escapeLetters : List Char :=
  ['a', 'b', 'v', 'f', 'n', 'r', 't', 'e', 'E', '0', '\\', '\'', '"', 'x', 'u', 'U']

theorem letter?_of_notMem {k : Char} (h : k ∉ escapeLetters) :
    letter? k = none ∧ isCodepointKind k = false := by
  simp only [escapeLetters, List.mem_cons, List.not_mem_nil, not_or, or_false] at h
  constructor
  · unfold letter?
    split <;> simp_all
  · simp [isCodepointKind, h]

/-- A text in which no backslash begins an escape decodes to itself. -/
theorem decode_of_no_escape {s : List Char}
    (h : ∀ front k back, s = front ++ '\\' :: k :: back → k ∉ escapeLetters) :
    decode s = .ok s := by
  induction s using decode.induct with
  | case1 => exact decode_nil
  | case2 k rest c hletter ih =>
    rw [(letter?_of_notMem (h [] k rest rfl)).1] at hletter
    contradiction
  | case3 k rest hletter hk c count hread ih =>
    rw [(letter?_of_notMem (h [] k rest rfl)).2] at hk
    contradiction
  | case4 k rest hletter hk cause count hread =>
    rw [(letter?_of_notMem (h [] k rest rfl)).2] at hk
    contradiction
  | case5 k rest hletter hk ih =>
    have hrest := ih fun front k' back hsplit => h ('\\' :: front) k' back (by rw [hsplit]; rfl)
    rw [decode_other hletter (by simpa using hk), hrest]
    rfl
  | case6 c rest hplain ih =>
    have hlone : decode (c :: rest) = emit 1 c (decode rest) := by rw [decode]; exact hplain
    have hrest := ih fun front k back hsplit => h (c :: front) k back (by rw [hsplit]; rfl)
    rw [hlone, hrest]
    rfl

end Escape

theorem unescape_eq_ok_iff {text done : String} :
    unescape text = .ok done ↔ Escape.decode text.toList = .ok done.toList := by
  rw [unescape]
  cases Escape.decode text.toList with
  | ok cs =>
    simp only [Except.ok.injEq]
    exact ⟨fun h => by rw [← h, String.toList_ofList], fun h => by rw [h, String.ofList_toList]⟩
  | error fault => simp

theorem unescape_eq_error_iff {text : String} {e : EscapeError} :
    unescape text = .error e ↔
      Escape.decode text.toList = .error e.toEscapeFault ∧ e.text = text := by
  rw [unescape]
  cases Escape.decode text.toList with
  | ok cs => simp
  | error fault =>
    obtain ⟨fault', text'⟩ := e
    simp only [Except.error.injEq, EscapeError.mk.injEq, eq_comm (a := text)]

/-- What an escape error says of the text: at its index is an escape of its kind, whose digits are
wrong for its cause, and the text in front of that decodes without regard to what follows. -/
structure EscapeError.IsFirst (e : EscapeError) (text : String) : Prop where
  of_text : e.text = text
  backslash : text.toList[e.index]? = some '\\'
  kind : text.toList[e.index + 1]? = some e.kind
  isKind : e.kind = 'x' ∨ e.kind = 'u' ∨ e.kind = 'U'
  malformed : (Escape.codepoint e.kind (text.toList.drop (e.index + 2))).1 = .error e.cause
  boundary :
    let front := String.ofList (text.toList.take e.index)
    ∃ done, unescape front = .ok done ∧ ∀ more,
      (∀ x, unescape more = .ok x → unescape (front ++ more) = .ok (done ++ x)) ∧
        ∀ later, unescape more = .error later →
          ∃ e', unescape (front ++ more) = .error e' ∧ e'.kind = later.kind ∧
            e'.cause = later.cause ∧ e'.index = e.index + later.index

theorem EscapeError.isFirst {text : String} {e : EscapeError} (h : unescape text = .error e) :
    e.IsFirst text := by
  obtain ⟨hdecode, htext⟩ := unescape_eq_error_iff.1 h
  obtain ⟨front, body, cs, hfault⟩ := Escape.exists_faultAt hdecode
  have hsplit := hfault.text
  have hfront : text.toList.take e.index = front := by
    rw [hsplit, hfault.index, List.take_left]
  have hbody : text.toList.drop (e.index + 2) = body := by
    rw [hsplit, hfault.index, List.drop_length_add_append]
    rfl
  have hkind : (e.kind = 'x' ∨ e.kind = 'u') ∨ e.kind = 'U' := by
    simpa [Escape.isCodepointKind] using hfault.kind
  have hmore (more : String) : Escape.decode (String.ofList front ++ more).toList =
      Escape.resume e.index cs (Escape.decode more.toList) := by
    rw [String.toList_append, String.toList_ofList, hfault.settled, hfault.index]
  refine ⟨htext, ?_, ?_, or_assoc.1 hkind, by rw [hbody]; exact hfault.malformed, ?_⟩
  · rw [hsplit, hfault.index]
    simp
  · rw [hsplit, hfault.index]
    simp
  · rw [hfront]
    refine ⟨String.ofList cs, ?_, fun more => ⟨fun x hx => ?_, fun later hlater => ?_⟩⟩
    · rw [unescape_eq_ok_iff, String.toList_ofList, hfault.settled.decode_eq, String.toList_ofList]
    · rw [unescape_eq_ok_iff] at hx ⊢
      rw [hmore, hx, String.toList_append, String.toList_ofList]
      rfl
    · obtain ⟨hdecode, -⟩ := unescape_eq_error_iff.1 hlater
      refine ⟨{ later with index := e.index + later.index, text := String.ofList front ++ more },
        ?_, rfl, rfl, rfl⟩
      rw [unescape_eq_error_iff, hmore, hdecode, Escape.resume, Nat.add_comm]
      exact ⟨rfl, rfl⟩

/-- An escape error reports the first malformed escape of a text, and nothing in front of that
escape depends on what follows; and where no backslash begins an escape, the text decodes to
itself. -/
theorem unescape_reports_first :
    (∀ (text : String) (e : EscapeError), unescape text = .error e → e.IsFirst text) ∧
      ∀ text : String,
        (∀ front k back, text.toList = front ++ '\\' :: k :: back → k ∉ Escape.escapeLetters) →
          unescape text = .ok text := by
  refine ⟨fun text e h => e.isFirst h, fun text h => ?_⟩
  rw [unescape_eq_ok_iff]
  exact Escape.decode_of_no_escape h

/-- A code point that is no character, behind two backslashes, an escape and a backslash that begins
none, and in front of another malformed escape; and a text with backslashes that begin none. -/
theorem unescape_reports_first_of_two :
    let text := "\\\\\u00e9\\x41\\q\\u\x7b110000\x7d\\xZ"
    let e : EscapeError := ⟨⟨'u', 9, .notCharacter 0x110000⟩, text⟩
    unescape text = .error e ∧ e.IsFirst text ∧ unescape "\\q\\" = .ok "\\q\\" := by
  intro text e
  have h : unescape text = .error e := by decide +kernel
  obtain ⟨hfirst, hplain⟩ := unescape_reports_first
  refine ⟨h, hfirst text e h, hplain _ fun front k back hsplit => ?_⟩
  have hlist : "\\q\\".toList = ['\\', 'q', '\\'] := by decide
  rw [hlist] at hsplit
  have hlength := congrArg List.length hsplit
  match front with
  | [] =>
    have hk : 'q' = k := by simpa using (List.cons.inj (List.cons.inj hsplit).2).1
    rw [← hk]
    decide
  | [c] => simp at hsplit
  | c :: d :: front =>
    simp only [List.length_append, List.length_cons, List.length_nil] at hlength
    omega

end LineShell
