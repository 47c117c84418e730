import LineShell.Proofs.Escaping
import Mathlib.Data.List.TakeWhile

/-!
# Decoding piece by piece

A text is decoded from its front to its back. A piece of it that was decoded to its own end is
settled: what it decodes to does not depend on what follows, and what follows is decoded as if it
stood alone, but for the indices, which count from the front of the whole text. Settled pieces are
the characters and the escapes that are complete, and every row of them.
-/
namespace LineShell.Escape

/-- The result on a text whose first `count` characters were decoded to `cs`, given the result on
the characters after them. -/
def resume (count : ℕ) (cs : List Char) :
    Except EscapeFault (List Char) → Except EscapeFault (List Char)
  | .ok more => .ok (cs ++ more)
  | .error fault => .error { fault with index := fault.index + count }

theorem emit_eq_resume (count : ℕ) (c : Char) (result : Except EscapeFault (List Char)) :
    emit count c result = resume count [c] result := by
  cases result <;> rfl

theorem resume_resume (m n : ℕ) (cs ds : List Char) (result : Except EscapeFault (List Char)) :
    resume m cs (resume n ds result) = resume (m + n) (cs ++ ds) result := by
  cases result with
  | ok more => simp only [resume, List.append_assoc]
  | error fault => simp only [resume, Nat.add_assoc, Nat.add_comm n m]

/-- Whatever follows a piece of a text, the piece decodes to `cs`. -/
def Settled (piece cs : List Char) : Prop :=
  ∀ rest, decode (piece ++ rest) = resume piece.length cs (decode rest)

/-- The digits of an escape in braces end at the first closing brace. -/
theorem codepoint_closed {digits : List Char} (h : '\x7d' ∉ digits) (rest : List Char) :
    codepoint 'u' ('\x7b' :: (digits ++ '\x7d' :: rest)) = (ofHex digits, digits.length + 2) := by
  have htake : (digits ++ '\x7d' :: rest).takeWhile (· != '\x7d') = digits := by
    have hdigits : ∀ c ∈ digits, (c != '\x7d') = true := fun c hc =>
      bne_iff_ne.2 fun he => h (he ▸ hc)
    rw [List.takeWhile_append_of_pos hdigits]
    simp
  rw [codepoint_brace, htake]

theorem fixed_take_append {n : ℕ} {s : List Char} (h : n ≤ s.length) (more : List Char) :
    fixed n (s.take n ++ more) = fixed n s := by
  have htake : (s.take n ++ more).take n = s.take n :=
    List.take_left' (by rw [List.length_take]; omega)
  rw [fixed, fixed, htake]

/-- A code point is read alike whatever follows the characters that it is written with, unless its
brace is not closed. -/
theorem codepoint_take_append {k c : Char} {s : List Char} {count : ℕ}
    (hk : isCodepointKind k = true) (h : codepoint k s = (.ok c, count))
    (hcount : count ≤ s.length) (more : List Char) :
    codepoint k (s.take count ++ more) = (.ok c, count) := by
  have hfixed (n : ℕ) (hn : (fixed n s, n) = (.ok c, count)) :
      (fixed n (s.take count ++ more), n) = (.ok c, count) := by
    rw [Prod.mk.injEq] at hn
    obtain ⟨hc, rfl⟩ := hn
    rw [fixed_take_append hcount, hc]
  simp only [isCodepointKind, Bool.or_eq_true, beq_iff_eq] at hk
  obtain (rfl | rfl) | rfl := hk
  · exact hfixed 2 h
  · by_cases hbrace : s.head? = some '\x7b'
    · obtain ⟨body, rfl⟩ := List.head?_eq_some_iff.1 hbrace
      have hclosed : '\x7d' ∈ body := by
        by_contra hopen
        have htake : body.takeWhile (· != '\x7d') = body :=
          List.takeWhile_eq_self_iff.2 fun c hc => bne_iff_ne.2 fun he => hopen (he ▸ hc)
        rw [codepoint_brace, htake, Prod.mk.injEq] at h
        rw [List.length_cons] at hcount
        omega
      obtain ⟨digits, after, rfl, hdigits⟩ := List.eq_append_cons_of_mem hclosed
      rw [codepoint_closed hdigits, Prod.mk.injEq] at h
      obtain ⟨hc, rfl⟩ := h
      have htake : ('\x7b' :: (digits ++ '\x7d' :: after)).take (digits.length + 2) =
          '\x7b' :: (digits ++ ['\x7d']) := by
        rw [List.take_succ_cons, List.take_length_add_append]
        rfl
      rw [htake, List.cons_append, List.append_assoc, List.singleton_append,
        codepoint_closed hdigits, hc]
    · have hplain := codepoint_plain hbrace
      have hplain' :
          codepoint 'u' (s.take count ++ more) = (fixed 4 (s.take count ++ more), 4) := by
        apply codepoint_plain
        rw [hplain, Prod.mk.injEq] at h
        cases s with
        | nil => simp at hcount; omega
        | cons d s => simpa [← h.2] using hbrace
      rw [hplain']
      rw [hplain] at h
      exact hfixed 4 h
  · exact hfixed 8 h

namespace Settled
variable {piece piece' cs cs' : List Char}

theorem nil : Settled [] [] := by
  intro rest
  cases h : decode rest <;> simp [h, resume]

theorem append (h : Settled piece cs) (h' : Settled piece' cs') :
    Settled (piece ++ piece') (cs ++ cs') := by
  intro rest
  rw [List.append_assoc, h, h', resume_resume, List.length_append]

/-- A settled piece decodes on its own. -/
theorem decode_eq (h : Settled piece cs) : decode piece = .ok cs := by
  have halone := h []
  rwa [List.append_nil, decode_nil, resume, List.append_nil] at halone

theorem plain {c : Char} (h : c ≠ '\\') : Settled [c] [c] := by
  intro rest
  rw [List.singleton_append, decode_cons_of_ne h, emit_eq_resume]
  rfl

theorem letter {k c : Char} (h : letter? k = some c) : Settled ['\\', k] [c] := by
  intro rest
  rw [List.cons_append, List.singleton_append, decode_letter h, emit_eq_resume]
  rfl

/-- The escape of a code point is settled once all that it is written with is there. -/
theorem codepoint {k c : Char} {s : List Char} {count : ℕ} (hk : isCodepointKind k = true)
    (h : Escape.codepoint k s = (.ok c, count)) (hcount : count ≤ s.length) :
    Settled ('\\' :: k :: s.take count) [c] := by
  intro rest
  have hread := codepoint_take_append hk h hcount rest
  have hlength : (s.take count).length = count := List.length_take_of_le hcount
  have hdrop : (s.take count ++ rest).drop count = rest := List.drop_left' hlength
  rw [List.cons_append, List.cons_append, decode_codepoint hk, hread]
  simp only [hdrop, emit_eq_resume, List.length_cons, hlength]

/-- A backslash that begins no escape is settled with the character after it. -/
theorem other {k : Char} (hletter : letter? k = none) (hk : isCodepointKind k = false)
    (h : Settled (k :: piece) cs) : Settled ('\\' :: k :: piece) ('\\' :: cs) := by
  intro rest
  have hrest := h rest
  rw [List.cons_append] at hrest
  rw [List.cons_append, List.cons_append, decode_other hletter hk, hrest, emit_eq_resume,
    resume_resume, List.singleton_append, @List.length_cons _ '\\' (k :: piece), Nat.add_comm 1]

end Settled
end LineShell.Escape
