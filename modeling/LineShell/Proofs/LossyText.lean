import LineShell.Text.Utf8
import Mathlib.Tactic.Common
import Mathlib.Tactic.SplitIfs

/-!
# Text in bytes that need not be text

A byte below 0x80 stands for itself wherever it comes in bytes that are decoded with replacements:
no sequence that breaks off takes it along, and no other byte becomes what it stands for. The bytes
of a text are decoded to that text, and bytes from which something is decoded without a replacement
are the bytes of that. So nothing is lost where bytes are the bytes of a text, and where something
is lost, that can be seen.
-/
namespace LineShell.Utf8

/-! ## The bytes of a text -/

theorem encode_append (a b : String) : encode (a ++ b) = encode a ++ encode b := by
  simp [encode, String.toByteArray_append]

theorem encode_eq (s : String) : encode s = s.toList.flatMap String.utf8EncodeChar := by
  have htext := String.toByteArray_ofList (l := s.toList)
  rw [String.ofList_toList] at htext
  rw [encode, htext, List.utf8Encode]
  simp

theorem encode_replicate {c : Char} {b : UInt8} (h : String.utf8EncodeChar c = [b]) (n : Nat) :
    encode (String.ofList (List.replicate n c)) = List.replicate n b := by
  rw [encode_eq, String.toList_ofList, List.flatMap_replicate, h, List.flatten_replicate_singleton]

/-- Bytes that are text are the bytes of that text. -/
theorem encode_of_decode? {bytes : Bytes} {s : String} (h : decode? bytes = some s) :
    encode s = bytes := by
  rw [decode?, String.fromUTF8?] at h
  split at h
  · obtain rfl := Option.some.inj h
    rfl
  · contradiction

theorem encode_inj {a b : String} : encode a = encode b ↔ a = b := by
  refine ⟨fun h => ?_, congrArg encode⟩
  have hdecode := decode?_encode a
  rw [h, decode?_encode] at hdecode
  exact (Option.some.inj hdecode).symm

theorem encode_eq_nil {s : String} : encode s = [] ↔ s = "" :=
  encode_inj (b := "")

/-! ## Sequences of several bytes -/

/-- What the first byte of a sequence fixes, sorted by how many bytes follow. -/
theorem lead?_cases {b : UInt8} {lead : Lead} (h : lead? b = some lead) :
    (lead.more = 1 ∧ b.toNat = lead.bits + 0xC0 ∧ 2 ≤ lead.bits ∧ lead.bits < 32 ∧
      lead.low = 0x80 ∧ lead.high = 0xBF) ∨
    (lead.more = 2 ∧ b.toNat = lead.bits + 0xE0 ∧ lead.bits < 16 ∧ 0x80 ≤ lead.low ∧
      lead.high ≤ 0xBF ∧ (lead.bits = 0 → 0xA0 ≤ lead.low) ∧
      (lead.bits = 13 → lead.high ≤ 0x9F)) ∨
    (lead.more = 3 ∧ b.toNat = lead.bits + 0xF0 ∧ lead.bits ≤ 4 ∧ 0x80 ≤ lead.low ∧
      lead.high ≤ 0xBF ∧ (lead.bits = 0 → 0x90 ≤ lead.low) ∧
      (lead.bits = 4 → lead.high ≤ 0x8F)) := by
  simp only [lead?] at h
  split_ifs at h <;> simp only [Option.some.injEq] at h <;> subst h <;> simp <;> omega

theorem continuation_suffix (more value low high : Nat) (bytes : Bytes) :
    (continuation more value low high bytes).2 <:+ bytes := by
  induction more generalizing value low high bytes with
  | zero => exact List.suffix_refl _
  | succ more ih =>
    cases bytes with
    | nil => exact List.suffix_refl _
    | cons b rest =>
      rw [continuation]
      split
      · exact (ih ..).trans (List.suffix_cons ..)
      · exact List.suffix_refl _

theorem exists_of_continuation_succ {more value low high n : Nat} {bytes rest : Bytes}
    (h : continuation (more + 1) value low high bytes = (some n, rest)) :
    ∃ b tail, bytes = b :: tail ∧ low ≤ b.toNat ∧ b.toNat ≤ high ∧
      continuation more (value * 64 + b.toNat % 64) 0x80 0xBF tail = (some n, rest) := by
  cases bytes with
  | nil => simp [continuation] at h
  | cons b tail =>
    rw [continuation] at h
    split_ifs at h with hb
    · exact ⟨b, tail, rfl, hb.1, hb.2, h⟩
    · simp at h

theorem eq_of_continuation_zero {value low high n : Nat} {bytes rest : Bytes}
    (h : continuation 0 value low high bytes = (some n, rest)) : n = value ∧ rest = bytes := by
  simpa [continuation, eq_comm] using h

/-! ## What replacements do not touch -/

theorem decodeLossy_cons_of_lt {b : UInt8} (hb : b.toNat < 0x80) (rest : Bytes) :
    decodeLossy (b :: rest) = Char.ofNat b.toNat :: decodeLossy rest := by
  rw [decodeLossy, if_pos hb]

theorem toNat_byte {n : Nat} (h : n < 256) : (UInt8.ofNat n).toNat = n := by
  rw [UInt8.toNat_ofNat', Nat.mod_eq_of_lt h]

/-- The digits of a number to the base 64 that one continuation byte after another gives. -/
theorem continuation_byte {more value low high n : Nat} (hlow : low ≤ n % 64 + 128)
    (hhigh : n % 64 + 128 ≤ high) (rest : Bytes) :
    continuation (more + 1) value low high (UInt8.ofNat (n % 64 + 128) :: rest) =
      continuation more (value * 64 + n % 64) 0x80 0xBF rest := by
  have hbyte : (UInt8.ofNat (n % 64 + 128)).toNat = n % 64 + 128 := toNat_byte (by omega)
  have hdigit : (n % 64 + 128) % 64 = n % 64 := by omega
  rw [continuation, hbyte, if_pos ⟨hlow, hhigh⟩, hdigit]

/-- A first byte with all the bytes that it asks for. -/
theorem decodeLossy_of_lead? {b : UInt8} {lead : Lead} (hlead : lead? b = some lead)
    {bytes rest : Bytes} {n : Nat}
    (h : continuation lead.more lead.bits lead.low lead.high bytes = (some n, rest)) :
    decodeLossy (b :: bytes) = Char.ofNat n :: decodeLossy rest := by
  have hb : ¬b.toNat < 0x80 := by
    intro hb
    simp only [lead?] at hlead
    rw [if_pos (by omega)] at hlead
    contradiction
  rw [decodeLossy, if_neg hb, hlead]
  simp only [h, Option.elim_some]

/-- The first byte of a character of several bytes allows for the second one. -/
theorem exists_lead? {n m more unit : Nat} (hvalid : n < 55296 ∨ 57343 < n ∧ n < 1114112)
    (h : (0x80 ≤ n ∧ n < 0x800 ∧ more = 1 ∧ unit = 1 ∧ m = n / 64 + 0xC0) ∨
      (0x800 ≤ n ∧ n < 0x10000 ∧ more = 2 ∧ unit = 64 ∧ m = n / 4096 + 0xE0) ∨
      (0x10000 ≤ n ∧ more = 3 ∧ unit = 4096 ∧ m = n / 262144 + 0xF0)) :
    ∃ lead, lead? (UInt8.ofNat m) = some lead ∧ lead.more = more ∧
      lead.bits = n / (unit * 64) ∧ lead.low ≤ n / unit % 64 + 128 ∧
      n / unit % 64 + 128 ≤ lead.high := by
  have hbyte : (UInt8.ofNat m).toNat = m := toNat_byte (by omega)
  simp only [lead?, hbyte]
  obtain ⟨hlow, hhigh, rfl, rfl, rfl⟩ | ⟨hlow, hhigh, rfl, rfl, rfl⟩ | ⟨hlow, rfl, rfl, rfl⟩ := h <;>
    split_ifs <;> simp <;> omega

theorem decodeLossy_encodeChar_append (c : Char) (rest : Bytes) :
    decodeLossy (String.utf8EncodeChar c ++ rest) = c :: decodeLossy rest := by
  have hvalid : c.toNat < 55296 ∨ 57343 < c.toNat ∧ c.toNat < 1114112 := c.valid
  have hself : Char.ofNat c.toNat = c := Char.ofNat_toNat c
  have hval : c.val.toNat = c.toNat := rfl
  rw [String.utf8EncodeChar, hval]
  generalize c.toNat = n at hvalid hself
  split_ifs with hone htwo hthree
  · have hbyte := toNat_byte (n := n) (by omega)
    rw [List.singleton_append, decodeLossy_cons_of_lt (by omega), hbyte, hself]
  · obtain ⟨lead, hlead, hmore, hbits, hlow, hhigh⟩ := exists_lead? (m := n / 64 % 32 + 192)
      hvalid (.inl ⟨by omega, by omega, rfl, rfl, by omega⟩)
    rw [Nat.div_one] at hlow hhigh
    rw [List.cons_append, List.singleton_append, decodeLossy_of_lead? hlead (n := n) ?_, hself]
    rw [hmore, continuation_byte hlow hhigh, hbits]
    simp only [continuation, Prod.mk.injEq, Option.some.injEq, and_true]
    omega
  · obtain ⟨lead, hlead, hmore, hbits, hlow, hhigh⟩ := exists_lead? (m := n / 4096 % 16 + 224)
      hvalid (.inr (.inl ⟨by omega, by omega, rfl, rfl, by omega⟩))
    rw [List.cons_append, List.cons_append, List.singleton_append,
      decodeLossy_of_lead? hlead (n := n) ?_, hself]
    rw [hmore, continuation_byte hlow hhigh, continuation_byte (by omega) (by omega), hbits]
    simp only [continuation, Prod.mk.injEq, Option.some.injEq, and_true]
    omega
  · obtain ⟨lead, hlead, hmore, hbits, hlow, hhigh⟩ := exists_lead? (m := n / 262144 % 8 + 240)
      hvalid (.inr (.inr ⟨by omega, rfl, rfl, by omega⟩))
    rw [List.cons_append, List.cons_append, List.cons_append, List.singleton_append,
      decodeLossy_of_lead? hlead (n := n) ?_, hself]
    rw [hmore, continuation_byte hlow hhigh, continuation_byte (by omega) (by omega),
      continuation_byte (by omega) (by omega), hbits]
    simp only [continuation, Prod.mk.injEq, Option.some.injEq, and_true]
    omega

@[simp] theorem decodeLossy_encode (s : String) : decodeLossy (encode s) = s.toList := by
  rw [encode_eq]
  generalize s.toList = cs
  induction cs with
  | nil => simp [decodeLossy]
  | cons c cs ih => rw [List.flatMap_cons, decodeLossy_encodeChar_append, ih]

@[simp] theorem lossy_encode (s : String) : lossy (encode s) = s := by
  rw [lossy, decodeLossy_encode, String.ofList_toList]

/-! ## What is decoded from itself only -/

theorem toNat_ofNat (n : Nat) : (Char.ofNat n).toNat = if n.isValidChar then n else 0 := by
  unfold Char.ofNat
  by_cases h : n.isValidChar
  · rw [dif_pos h, if_pos h]
    rfl
  · rw [dif_neg h, if_neg h]
    rfl

theorem ofNat_eq_of_toNat {b : UInt8} {n : Nat} (h : n = b.toNat) : UInt8.ofNat n = b := by
  rw [h, UInt8.ofNat_toNat]

theorem val_ofNat {n : Nat} (h : n < 55296 ∨ 57343 < n ∧ n < 1114112) :
    (Char.ofNat n).val.toNat = n := by
  have hval := toNat_ofNat n
  rwa [if_pos h] at hval

/-- A sequence that is complete has the bytes of the character that it is decoded to. -/
theorem encodeChar_of_continuation {b : UInt8} {lead : Lead} (hlead : lead? b = some lead)
    {bytes rest : Bytes} {n : Nat}
    (h : continuation lead.more lead.bits lead.low lead.high bytes = (some n, rest)) :
    String.utf8EncodeChar (Char.ofNat n) ++ rest = b :: bytes := by
  obtain ⟨hmore, hb, hbits⟩ | ⟨hmore, hb, hbits⟩ | ⟨hmore, hb, hbits⟩ := lead?_cases hlead <;>
    rw [hmore] at h
  · obtain ⟨c, tail, rfl, hc⟩ := exists_of_continuation_succ h
    obtain ⟨hn, rfl⟩ := eq_of_continuation_zero hc.2.2
    rw [String.utf8EncodeChar, val_ofNat (by omega), if_neg (by omega), if_pos (by omega)]
    simp only [List.cons_append, List.nil_append, List.cons.injEq, and_true]
    exact ⟨ofNat_eq_of_toNat (by omega), ofNat_eq_of_toNat (by omega)⟩
  · obtain ⟨c, tail, rfl, hc⟩ := exists_of_continuation_succ h
    obtain ⟨d, tail, rfl, hd⟩ := exists_of_continuation_succ hc.2.2
    obtain ⟨hn, rfl⟩ := eq_of_continuation_zero hd.2.2
    rw [String.utf8EncodeChar, val_ofNat (by omega), if_neg (by omega), if_neg (by omega),
      if_pos (by omega)]
    simp only [List.cons_append, List.nil_append, List.cons.injEq, and_true]
    exact ⟨ofNat_eq_of_toNat (by omega), ofNat_eq_of_toNat (by omega),
      ofNat_eq_of_toNat (by omega)⟩
  · obtain ⟨c, tail, rfl, hc⟩ := exists_of_continuation_succ h
    obtain ⟨d, tail, rfl, hd⟩ := exists_of_continuation_succ hc.2.2
    obtain ⟨e, tail, rfl, he⟩ := exists_of_continuation_succ hd.2.2
    obtain ⟨hn, rfl⟩ := eq_of_continuation_zero he.2.2
    rw [String.utf8EncodeChar, val_ofNat (by omega), if_neg (by omega), if_neg (by omega),
      if_neg (by omega)]
    simp only [List.cons_append, List.nil_append, List.cons.injEq, and_true]
    exact ⟨ofNat_eq_of_toNat (by omega), ofNat_eq_of_toNat (by omega),
      ofNat_eq_of_toNat (by omega), ofNat_eq_of_toNat (by omega)⟩

/-- What is decoded from a byte that begins no character of one byte has several bytes itself. -/
theorem le_toNat_elim_replacement {b : UInt8} {lead : Lead} (hlead : lead? b = some lead)
    {bytes : Bytes} {c : Char}
    (h : (continuation lead.more lead.bits lead.low lead.high bytes).1.elim replacement
      Char.ofNat = c) : 0x80 ≤ c.toNat := by
  subst h
  cases hfirst : (continuation lead.more lead.bits lead.low lead.high bytes).1 with
  | none => decide
  | some n =>
    by_contra hlow
    have hval : (Char.ofNat n).val.toNat = (Char.ofNat n).toNat := rfl
    have hbytes := encodeChar_of_continuation hlead (Prod.ext hfirst rfl)
    rw [String.utf8EncodeChar, hval, if_pos (by rw [Option.elim_some] at hlow; omega)] at hbytes
    have hb := congrArg UInt8.toNat (List.cons.inj hbytes).1
    have hcases := lead?_cases hlead
    rw [Option.elim_some] at hlow
    rw [toNat_byte (by omega)] at hb
    omega

/-- A character of one byte is decoded from that byte only. -/
theorem ofNat_not_mem_decodeLossy {b : UInt8} (hb : b.toNat < 0x80) {bytes : Bytes}
    (h : b ∉ bytes) : Char.ofNat b.toNat ∉ decodeLossy bytes := by
  have hcode : (Char.ofNat b.toNat).toNat = b.toNat := by
    rw [toNat_ofNat, if_pos (.inl (by omega))]
  induction bytes using decodeLossy.induct with
  | case1 => simp [decodeLossy]
  | case2 c rest hc ih =>
    obtain ⟨hother, hrest⟩ := List.ne_and_not_mem_of_not_mem_cons h
    rw [decodeLossy_cons_of_lt hc]
    refine List.not_mem_cons_of_ne_of_not_mem (fun heq => hother ?_) (ih hrest)
    have hnat := congrArg Char.toNat heq
    rw [hcode, toNat_ofNat, if_pos (.inl (by omega))] at hnat
    exact UInt8.toNat_inj.1 hnat
  | case3 c rest hc hnone ih =>
    rw [decodeLossy, if_neg hc, hnone]
    refine List.not_mem_cons_of_ne_of_not_mem (fun heq => ?_)
      (ih (List.not_mem_of_not_mem_cons h))
    have hlarge : 0x80 ≤ replacement.toNat := by decide
    rw [← heq, hcode] at hlarge
    omega
  | case4 c rest hc lead hlead next ih =>
    have hleft : next.2 <:+ rest := continuation_suffix ..
    rw [decodeLossy, if_neg hc, hlead]
    refine List.not_mem_cons_of_ne_of_not_mem (fun heq => ?_)
      (ih fun hmem => List.not_mem_of_not_mem_cons h (hleft.subset hmem))
    have hlarge := le_toNat_elim_replacement hlead heq.symm
    omega

/-! ## Texts among bytes -/

/-- Bytes that are the bytes of a text. -/
def IsText (bytes : Bytes) : Prop :=
  ∃ text, encode text = bytes

theorem isText_encode (s : String) : IsText (encode s) :=
  ⟨s, rfl⟩

theorem IsText.encode_lossy {bytes : Bytes} (h : IsText bytes) : encode (lossy bytes) = bytes := by
  obtain ⟨text, rfl⟩ := h
  rw [lossy_encode]

/-- A character with a byte below 0x80 has no other byte. -/
theorem encodeChar_eq_singleton {b : UInt8} (hb : b.toNat < 0x80) {c : Char}
    (h : b ∈ String.utf8EncodeChar c) : String.utf8EncodeChar c = [b] := by
  have hlarge {n : Nat} (hlow : 0x80 ≤ n) (hhigh : n < 256) : b ≠ UInt8.ofNat n := by
    rintro rfl
    rw [toNat_byte hhigh] at hb
    omega
  have hvalid : c.val.toNat < 55296 ∨ 57343 < c.val.toNat ∧ c.val.toNat < 1114112 := c.valid
  revert h
  rw [String.utf8EncodeChar]
  split_ifs <;> intro h <;> simp only [List.mem_cons, List.not_mem_nil, or_false] at h
  · rw [h]
  · obtain h | h := h <;> exact absurd h (hlarge (by omega) (by omega))
  · obtain h | h | h := h <;> exact absurd h (hlarge (by omega) (by omega))
  · obtain h | h | h | h := h <;> exact absurd h (hlarge (by omega) (by omega))

theorem encodeChar_ofNat {b : UInt8} (hb : b.toNat < 0x80) :
    String.utf8EncodeChar (Char.ofNat b.toNat) = [b] := by
  have hval : (Char.ofNat b.toNat).val.toNat = b.toNat := by
    rw [← Char.toNat, toNat_ofNat, if_pos (.inl (by omega))]
  rw [String.utf8EncodeChar, hval, if_pos (by omega), UInt8.ofNat_toNat]

theorem mem_encode_of_mem {b : UInt8} (hb : b.toNat < 0x80) {s : String}
    (h : Char.ofNat b.toNat ∈ s.toList) : b ∈ encode s := by
  rw [encode_eq, List.mem_flatMap]
  exact ⟨_, h, by simp [encodeChar_ofNat hb]⟩

/-- Characters are cut at a byte below 0x80 as their bytes are. -/
theorem exists_flatMap_of_append_cons {b : UInt8} (hb : b.toNat < 0x80) {chars : List Char}
    {front rest : Bytes} (h : chars.flatMap String.utf8EncodeChar = front ++ b :: rest) :
    ∃ before after : List Char, before.flatMap String.utf8EncodeChar = front ∧
      after.flatMap String.utf8EncodeChar = rest := by
  induction chars generalizing front with
  | nil => simp at h
  | cons c chars ih =>
    rw [List.flatMap_cons, List.append_eq_append_iff] at h
    obtain ⟨front', rfl, hrest⟩ | ⟨tail, hchar, htail⟩ := h
    · obtain ⟨before, after, rfl, hafter⟩ := ih hrest
      exact ⟨c :: before, after, rfl, hafter⟩
    · cases tail with
      | nil =>
        have hrest : chars.flatMap String.utf8EncodeChar = [] ++ b :: rest := htail.symm
        obtain ⟨before, after, hbefore, hafter⟩ := ih hrest
        exact ⟨[c], after, by simpa using hchar, hafter⟩
      | cons x tail =>
        obtain ⟨rfl, rfl⟩ := List.cons.inj htail
        have hone := encodeChar_eq_singleton hb (hchar ▸ List.mem_append_right _ List.mem_cons_self)
        obtain ⟨rfl, rfl⟩ : front = [] ∧ tail = [] := by
          have hlength := congrArg List.length hchar
          simp only [hone, List.length_append, List.length_cons, List.length_nil] at hlength
          exact ⟨List.length_eq_zero_iff.mp (by omega), List.length_eq_zero_iff.mp (by omega)⟩
        exact ⟨[], chars, rfl, rfl⟩

/-- Where a byte below 0x80 stands in a text, there are texts on both sides. -/
theorem isText_append_cons_iff {b : UInt8} (hb : b.toNat < 0x80) {front rest : Bytes} :
    IsText (front ++ b :: rest) ↔ IsText front ∧ IsText rest := by
  constructor
  · rintro ⟨text, htext⟩
    rw [encode_eq] at htext
    obtain ⟨before, after, hbefore, hafter⟩ := exists_flatMap_of_append_cons hb htext
    exact ⟨⟨String.ofList before, by simpa [encode_eq] using hbefore⟩,
      ⟨String.ofList after, by simpa [encode_eq] using hafter⟩⟩
  · rintro ⟨⟨s, rfl⟩, ⟨t, rfl⟩⟩
    refine ⟨String.ofList (s.toList ++ Char.ofNat b.toNat :: t.toList), ?_⟩
    simp [encode_eq, encodeChar_ofNat hb]

theorem isText_cons_iff {b : UInt8} (hb : b.toNat < 0x80) {bytes : Bytes} :
    IsText (b :: bytes) ↔ IsText bytes := by
  have hempty : IsText [] := isText_encode ""
  rw [← List.nil_append (b :: bytes), isText_append_cons_iff hb, and_iff_right hempty]

/-! ## Texts with replacements -/

/-- A byte below 0x80 in a text with replacements has been there before. -/
theorem mem_of_mem_encode_lossy {b : UInt8} (hb : b.toNat < 0x80) {bytes : Bytes}
    (h : b ∈ encode (lossy bytes)) : b ∈ bytes := by
  by_contra hnot
  rw [encode_eq, lossy, String.toList_ofList, List.mem_flatMap] at h
  obtain ⟨c, hc, hmem⟩ := h
  have hsame : String.utf8EncodeChar c = String.utf8EncodeChar (Char.ofNat b.toNat) := by
    rw [encodeChar_eq_singleton hb hmem, encodeChar_ofNat hb]
  have hchar : encode (String.ofList [c]) = encode (String.ofList [Char.ofNat b.toNat]) := by
    simp [encode_eq, hsame]
  obtain rfl : c = Char.ofNat b.toNat := by simpa [encode_inj] using hchar
  exact ofNat_not_mem_decodeLossy hb hnot hc

/-- Bytes are text if nothing has been replaced in what is shown for them. -/
theorem isText_of_replacement_notMem {bytes : Bytes} (h : replacement ∉ (lossy bytes).toList) :
    IsText bytes := by
  rw [lossy, String.toList_ofList] at h
  induction bytes using decodeLossy.induct with
  | case1 => exact isText_encode ""
  | case2 b rest hb ih =>
    rw [decodeLossy_cons_of_lt hb] at h
    exact (isText_cons_iff hb).2 (ih (List.not_mem_of_not_mem_cons h))
  | case3 b rest hb hnone ih =>
    rw [decodeLossy, if_neg hb, hnone] at h
    exact absurd List.mem_cons_self h
  | case4 b rest hb lead hlead next ih =>
    rw [decodeLossy, if_neg hb, hlead] at h
    cases hfirst : next.1 with
    | none =>
      simp [next] at hfirst
      simp [hfirst] at h
    | some n =>
      obtain ⟨text, htext⟩ := ih (List.not_mem_of_not_mem_cons h)
      have hnext : next = (some n, next.2) := Prod.ext hfirst rfl
      have hbytes := encodeChar_of_continuation hlead hnext
      refine ⟨String.ofList (Char.ofNat n :: text.toList), ?_⟩
      rw [encode_eq] at htext ⊢
      rw [String.toList_ofList, List.flatMap_cons, htext, hbytes]

end LineShell.Utf8
