import LineShell.Text.Escape
import Mathlib.Tactic.Common

/-!
# Writing texts with escapes

Every text can be written so that it has no double quotes and decodes to itself. Decoding two texts
with a space between them is decoding each of them, except when an escape with a brace is still open
at the space: a lone text may end in one, but a space is no digit of it.
-/
namespace LineShell

/-- A text with a character that is no digit is no numeral. -/
theorem Numeral.extend_of_notDigit {radix limit value : ℕ} {c : Char} {cs : List Char}
    (hc : digitValue? radix c = none) (h : c ∈ cs) :
    ∃ e, extend radix limit value cs = .error e := by
  induction cs generalizing value with
  | nil => simp at h
  | cons d ds ih =>
    rw [extend]
    cases hd : digitValue? radix d with
    | none => exact ⟨_, rfl⟩
    | some digit =>
      have hne : c ≠ d := by rintro rfl; simp [hc] at hd
      have hmem : c ∈ ds := (List.mem_cons.1 h).resolve_left hne
      simp only
      split_ifs
      · exact ih hmem
      · exact ⟨_, rfl⟩

namespace Escape

/-- A character as it is written so that it decodes to itself. -/
def encodeChar (c : Char) : List Char :=
  if c = '\\' then ['\\', '\\'] else if c = '"' then ['\\', 'x', '2', '2'] else [c]

/-- A text as it is written so that it decodes to itself. -/
def encode (s : List Char) : List Char :=
  s.flatMap encodeChar

theorem quote_notMem_encode (s : List Char) : '"' ∉ encode s := by
  intro h
  obtain ⟨c, -, hc⟩ := List.mem_flatMap.1 h
  rw [encodeChar] at hc
  split_ifs at hc with hslash hquote
  · simp at hc
  · simp at hc
  · exact hquote (List.mem_singleton.1 hc).symm

@[simp] theorem decode_nil : decode [] = .ok [] := by
  rw [decode]

theorem decode_cons_of_ne {c : Char} (h : c ≠ '\\') (rest : List Char) :
    decode (c :: rest) = emit 1 c (decode rest) := by
  rw [decode]
  intro k rest' hc
  exact absurd hc h

theorem decode_letter {k c : Char} (h : letter? k = some c) (rest : List Char) :
    decode ('\\' :: k :: rest) = emit 2 c (decode rest) := by
  rw [decode, h]

/-- A backslash that begins no escape. -/
theorem decode_other {k : Char} (h : letter? k = none) (hk : isCodepointKind k = false)
    (rest : List Char) : decode ('\\' :: k :: rest) = emit 1 '\\' (decode (k :: rest)) := by
  rw [decode, h]
  simp [hk]

theorem letter?_of_isCodepointKind {k : Char} (h : isCodepointKind k = true) :
    letter? k = none := by
  simp only [isCodepointKind, Bool.or_eq_true, beq_iff_eq] at h
  obtain (rfl | rfl) | rfl := h <;> rfl

theorem decode_codepoint {k : Char} (hk : isCodepointKind k = true) (rest : List Char) :
    decode ('\\' :: k :: rest) =
      match codepoint k rest with
      | (.ok c, count) => emit (count + 2) c (decode (rest.drop count))
      | (.error cause, _) => .error ⟨k, 0, cause⟩ := by
  rw [decode, letter?_of_isCodepointKind hk]
  obtain ⟨result, count⟩ := codepoint k rest
  cases result <;> simp [hk]

@[simp] theorem toOption_emit (count : ℕ) (c : Char) (result : Except EscapeFault (List Char)) :
    (emit count c result).toOption = result.toOption.map (c :: ·) := by
  cases result <;> rfl

/-- Decoding gives back what was written with escapes. -/
theorem decode_encode (s : List Char) : decode (encode s) = .ok s := by
  induction s with
  | nil => exact decode_nil
  | cons c cs ih =>
    rw [encode] at ih
    rw [encode, List.flatMap_cons, encodeChar]
    split_ifs with hslash hquote
    · have hletter : letter? '\\' = some '\\' := rfl
      rw [List.cons_append, List.cons_append, List.nil_append, decode_letter hletter, ih, hslash]
      rfl
    · have hhex : ofHex ['2', '2'] = .ok '"' := by decide
      have hread : codepoint 'x' ('2' :: '2' :: cs.flatMap encodeChar) = (.ok '"', 2) :=
        congrArg (·, 2) hhex
      rw [List.cons_append, List.cons_append, List.cons_append, List.cons_append, List.nil_append,
        decode_codepoint (by decide), hread]
      simp only [List.drop_succ_cons, List.drop_zero, ih, hquote]
      rfl
    · rw [List.singleton_append, decode_cons_of_ne hslash, ih]
      rfl

/-- A code point is not written with a space. -/
theorem ofHex_of_space {digits : List Char} (h : ' ' ∈ digits) : ∃ e, ofHex digits = .error e := by
  have hspace : Numeral.digitValue? 16 ' ' = none := by decide
  have hread : ∃ e, Numeral.read 16 (Nat.pow 2 32) digits = .error e := by
    rw [Numeral.read.eq_def]
    split
    · simp at h
    · exact ⟨_, rfl⟩
    · exact Numeral.extend_of_notDigit hspace (by simpa using h)
    · exact Numeral.extend_of_notDigit hspace h
  obtain ⟨e, he⟩ := hread
  exact ⟨.badHex (String.ofList digits) e, by rw [ofHex, he]⟩

/-- A fixed number of digits is not looked for past a space. -/
theorem fixed_append_space (count : ℕ) (s more : List Char) :
    fixed count (s ++ ' ' :: more) = fixed count s := by
  have hdigits : ((s ++ ' ' :: more).take count).takeWhile isHexDigit =
      (s.take count).takeWhile isHexDigit := by
    induction s generalizing count with
    | nil =>
      have hspace : isHexDigit ' ' = false := by decide
      cases count <;> simp [hspace]
    | cons c cs ih =>
      cases count with
      | zero => simp
      | succ count =>
        rw [List.cons_append, List.take_succ_cons, List.take_succ_cons, List.takeWhile_cons,
          List.takeWhile_cons, ih]
  rw [fixed, hdigits, fixed]

theorem le_length_of_fixed {count : ℕ} {s : List Char} {c : Char} (h : fixed count s = .ok c) :
    count ≤ s.length := by
  rw [fixed] at h
  split_ifs at h with hlt
  have hdigits := (List.takeWhile_sublist isHexDigit (l := s.take count)).length_le
  rw [List.length_take] at hdigits
  omega

/-- Whether an escape has a brace after its letter that is not closed. -/
def opensBrace (kind : Char) (s : List Char) : Bool :=
  kind == 'u' && s.head? == some '\x7b' && !s.contains '\x7d'

theorem codepoint_brace (s : List Char) :
    codepoint 'u' ('\x7b' :: s) =
      (ofHex (s.takeWhile (· != '\x7d')), (s.takeWhile (· != '\x7d')).length + 2) := rfl

theorem codepoint_plain {s : List Char} (h : s.head? ≠ some '\x7b') :
    codepoint 'u' s = (fixed 4 s, 4) := by
  rw [codepoint.eq_def]
  split <;> simp_all

theorem takeWhile_append_of_mem {α : Type} {p : α → Bool} {a : α} {s : List α} (ha : p a = false)
    (h : a ∈ s) (t : List α) :
    (s ++ t).takeWhile p = s.takeWhile p ∧ (s.takeWhile p).length < s.length := by
  induction s with
  | nil => simp at h
  | cons b bs ih =>
    by_cases hb : p b = true
    · have hne : a ≠ b := by rintro rfl; simp [ha] at hb
      obtain ⟨htake, hlt⟩ := ih ((List.mem_cons.1 h).resolve_left hne)
      simp [hb, htake, hlt]
    · simp [hb]

/-- How a code point is read when its braces are closed in front of a space. -/
theorem codepoint_append_space {kind : Char} {s : List Char} (hk : isCodepointKind kind = true)
    (hb : opensBrace kind s = false) (more : List Char) :
    codepoint kind (s ++ ' ' :: more) = codepoint kind s ∧
      ∀ c count, codepoint kind s = (.ok c, count) → count ≤ s.length := by
  have hfixed (n : ℕ) (c : Char) (count : ℕ) (h : (fixed n s, n) = (.ok c, count)) :
      count ≤ s.length := by
    rw [Prod.mk.injEq] at h
    exact h.2 ▸ le_length_of_fixed h.1
  simp only [isCodepointKind, Bool.or_eq_true, beq_iff_eq] at hk
  obtain (rfl | rfl) | rfl := hk
  · exact ⟨congrArg (·, 2) (fixed_append_space 2 s more), hfixed 2⟩
  · by_cases hbrace : s.head? = some '\x7b'
    · obtain ⟨body, rfl⟩ := List.head?_eq_some_iff.1 hbrace
      have hclosed : '\x7d' ∈ body := by simpa [opensBrace] using hb
      obtain ⟨htake, hlt⟩ := takeWhile_append_of_mem (p := (· != '\x7d')) (by decide) hclosed
        (' ' :: more)
      rw [List.cons_append, codepoint_brace, codepoint_brace, htake]
      refine ⟨rfl, fun c count h => ?_⟩
      rw [Prod.mk.injEq] at h
      rw [← h.2, List.length_cons]
      omega
    · have hbrace' : (s ++ ' ' :: more).head? ≠ some '\x7b' := by
        cases s with
        | nil => simp
        | cons c cs => simpa using hbrace
      rw [codepoint_plain hbrace, codepoint_plain hbrace', fixed_append_space]
      exact ⟨rfl, hfixed 4⟩
  · exact ⟨congrArg (·, 8) (fixed_append_space 8 s more), hfixed 8⟩

/-- A brace that is open at a space is never closed well. -/
theorem codepoint_of_opensBrace {kind : Char} {s : List Char} (hb : opensBrace kind s = true)
    (more : List Char) : ∃ e count, codepoint kind (s ++ ' ' :: more) = (.error e, count) := by
  simp only [opensBrace, Bool.and_eq_true, beq_iff_eq, Bool.not_eq_true', List.contains_eq_mem,
    decide_eq_false_iff_not] at hb
  obtain ⟨⟨rfl, hhead⟩, hopen⟩ := hb
  obtain ⟨body, rfl⟩ := List.head?_eq_some_iff.1 hhead
  have hbody : ∀ c ∈ body, (c != '\x7d') = true := fun c hc =>
    bne_iff_ne.2 fun he => hopen (he ▸ List.mem_cons_of_mem _ hc)
  have hspace : ' ' ∈ (body ++ ' ' :: more).takeWhile (· != '\x7d') := by
    rw [List.takeWhile_append_of_pos hbody]
    simp
  obtain ⟨e, he⟩ := ofHex_of_space hspace
  rw [List.cons_append, codepoint_brace, he]
  exact ⟨e, _, rfl⟩

/-- Whether the last escape of a text has a brace that is not closed. -/
def leavesOpen : List Char → Bool
  | [] => false
  | '\\' :: k :: rest =>
    if isCodepointKind k then opensBrace k rest || leavesOpen (rest.drop (codepoint k rest).2)
    else if (letter? k).isSome then leavesOpen rest
    else leavesOpen (k :: rest)
  | _ :: rest => leavesOpen rest
termination_by s => s.length
decreasing_by all_goals (simp only [List.length_cons, List.length_drop]; omega)

theorem leavesOpen_letter {k c : Char} (h : letter? k = some c) (rest : List Char) :
    leavesOpen ('\\' :: k :: rest) = leavesOpen rest := by
  have hk : isCodepointKind k = false := by
    by_contra hk
    rw [letter?_of_isCodepointKind (by simpa using hk)] at h
    contradiction
  rw [leavesOpen]
  simp [hk, h]

theorem leavesOpen_codepoint {k : Char} (hk : isCodepointKind k = true) (rest : List Char) :
    leavesOpen ('\\' :: k :: rest) =
      (opensBrace k rest || leavesOpen (rest.drop (codepoint k rest).2)) := by
  rw [leavesOpen, if_pos hk]

theorem leavesOpen_other {k : Char} (h : letter? k = none) (hk : isCodepointKind k = false)
    (rest : List Char) : leavesOpen ('\\' :: k :: rest) = leavesOpen (k :: rest) := by
  rw [leavesOpen]
  simp [hk, h]

/-- What two texts with a space between them decode to together, given whether a brace is open at
the space. -/
def joined (isOpen : Bool) (front back : Option (List Char)) : Option (List Char) :=
  if isOpen then none else front.bind fun cs => back.map (cs ++ ' ' :: ·)

theorem joined_map_cons (isOpen : Bool) (front back : Option (List Char)) (c : Char) :
    (joined isOpen front back).map (c :: ·) = joined isOpen (front.map (c :: ·)) back := by
  cases isOpen <;> cases front <;> cases back <;> rfl

/-- Decoding two texts with a space between them is decoding each of them, unless a brace is open at
the space. -/
theorem toOption_decode_append_space (s more : List Char) :
    (decode (s ++ ' ' :: more)).toOption =
      joined (leavesOpen s) (decode s).toOption (decode more).toOption := by
  induction s using decode.induct with
  | case1 =>
    rw [List.nil_append, decode_cons_of_ne (by decide), toOption_emit, leavesOpen, decode_nil]
    simp [joined, Except.toOption]
  | case2 k rest c hletter ih =>
    rw [List.cons_append, List.cons_append, decode_letter hletter, decode_letter hletter,
      leavesOpen_letter hletter, toOption_emit, toOption_emit, ih, joined_map_cons]
  | case3 k rest hletter hk c count hread ih =>
    by_cases hopen : opensBrace k rest = true
    · obtain ⟨e, n, he⟩ := codepoint_of_opensBrace hopen more
      rw [List.cons_append, List.cons_append, decode_codepoint hk, he, leavesOpen_codepoint hk,
        hopen]
      simp [joined, Except.toOption]
    · obtain ⟨hsame, hcount⟩ := codepoint_append_space hk (by simpa using hopen) more
      have hdrop : (rest ++ ' ' :: more).drop count = rest.drop count ++ ' ' :: more :=
        List.drop_append_of_le_length (hcount c count hread)
      have hflag : (opensBrace k rest || leavesOpen (rest.drop (codepoint k rest).2)) =
          leavesOpen (rest.drop count) := by simp [hopen, hread]
      rw [List.cons_append, List.cons_append, decode_codepoint hk, decode_codepoint hk, hsame,
        leavesOpen_codepoint hk, hflag, hread]
      simp only [toOption_emit, hdrop, ih, joined_map_cons]
  | case4 k rest hletter hk cause count hread =>
    have hfault : (decode ('\\' :: k :: rest)).toOption = none := by
      rw [decode_codepoint hk, hread]
      rfl
    have hnone : joined (leavesOpen ('\\' :: k :: rest)) none (decode more).toOption = none := by
      simp [joined]
    rw [hfault, hnone, List.cons_append, List.cons_append, decode_codepoint hk]
    by_cases hopen : opensBrace k rest = true
    · obtain ⟨e, n, he⟩ := codepoint_of_opensBrace hopen more
      rw [he]
      rfl
    · rw [(codepoint_append_space hk (by simpa using hopen) more).1, hread]
      rfl
  | case5 k rest hletter hk ih =>
    have hk' : isCodepointKind k = false := by simpa using hk
    rw [List.cons_append, List.cons_append, decode_other hletter hk', decode_other hletter hk',
      leavesOpen_other hletter hk', toOption_emit, toOption_emit, ← List.cons_append, ih,
      joined_map_cons]
  | case6 c rest hplain ih =>
    have hlone : decode (c :: rest) = emit 1 c (decode rest) := by rw [decode]; exact hplain
    have hopen : leavesOpen (c :: rest) = leavesOpen rest := by rw [leavesOpen]; exact hplain
    have hlong : decode (c :: (rest ++ ' ' :: more)) = emit 1 c (decode (rest ++ ' ' :: more)) := by
      by_cases hc : c = '\\'
      · -- a backslash at the end of a text begins no escape, and neither does one before a space
        cases rest with
        | nil => rw [hc]; exact decode_other rfl (by decide) more
        | cons k rest => exact absurd rfl (hplain k rest hc)
      · exact decode_cons_of_ne hc _
    rw [List.cons_append, hlong, hlone, hopen, toOption_emit, toOption_emit, ih, joined_map_cons]

end Escape

end LineShell
