import Mathlib.Logic.Basic
import NextBoot.Proofs.Text.EncodedZeros
import NextBoot.Text.Utf16

/-! Which sequences of UTF-16 units are the encoding of a text: those whose surrogates come in pairs,
and each of them of one text only. -/
namespace NextBoot.Text.Utf16

/-- Every surrogate is half of a pair, the high one first. -/
inductive WellFormed : List UInt16 → Prop
  | nil : WellFormed []
  | unit {u : UInt16} {rest : List UInt16} (notHigh : isHighSurrogate u = false)
      (notLow : isLowSurrogate u = false) : WellFormed rest → WellFormed (u :: rest)
  | pair {u v : UInt16} {rest : List UInt16} (high : isHighSurrogate u = true)
      (low : isLowSurrogate v = true) : WellFormed rest → WellFormed (u :: v :: rest)

theorem isHighSurrogate_eq_false_iff (u : UInt16) :
    isHighSurrogate u = false ↔ u.toNat < 0xD800 ∨ 0xDC00 ≤ u.toNat := by
  rw [Bool.eq_false_iff, ne_eq, isHighSurrogate_iff]
  omega

theorem isLowSurrogate_eq_false_iff (u : UInt16) :
    isLowSurrogate u = false ↔ u.toNat < 0xDC00 ∨ 0xE000 ≤ u.toNat := by
  rw [Bool.eq_false_iff, ne_eq, isLowSurrogate_iff]
  omega

/-! ### One character -/

theorem encodeChar_of_unit {u : UInt16} (notHigh : isHighSurrogate u = false)
    (notLow : isLowSurrogate u = false) : encodeChar (Char.ofNat u.toNat) = [u] := by
  have hlt := u.toNat_lt
  rw [isHighSurrogate_eq_false_iff] at notHigh
  rw [isLowSurrogate_eq_false_iff] at notLow
  have hvalid : u.toNat.isValidChar := by
    unfold Nat.isValidChar
    omega
  unfold encodeChar
  simp only [toNat_ofNat hvalid]
  rw [if_pos (by omega), UInt16.ofNat_toNat]

theorem encodeChar_of_pair {u v : UInt16} (high : isHighSurrogate u = true)
    (low : isLowSurrogate v = true) :
    encodeChar (Char.ofNat (0x10000 + (u.toNat - 0xD800) * 0x400 + (v.toNat - 0xDC00))) =
      [u, v] := by
  rw [isHighSurrogate_iff] at high
  rw [isLowSurrogate_iff] at low
  generalize hn : 0x10000 + (u.toNat - 0xD800) * 0x400 + (v.toNat - 0xDC00) = n
  have hvalid : n.isValidChar := by
    unfold Nat.isValidChar
    omega
  have hhigh : 0xD800 + (n - 0x10000) / 0x400 = u.toNat := by omega
  have hlow : 0xDC00 + (n - 0x10000) % 0x400 = v.toNat := by omega
  unfold encodeChar
  simp only [toNat_ofNat hvalid]
  rw [if_neg (by omega), hhigh, hlow, UInt16.ofNat_toNat, UInt16.ofNat_toNat]

theorem WellFormed.encodeChar_append (c : Char) {rest : List UInt16} (h : WellFormed rest) :
    WellFormed (encodeChar c ++ rest) := by
  have hv : c.toNat < 0xD800 ∨ 0xDFFF < c.toNat ∧ c.toNat < 0x110000 := c.valid
  unfold encodeChar
  generalize c.toNat = n at hv
  dsimp only
  split
  next hn =>
    have hu : (UInt16.ofNat n).toNat = n := by
      rw [UInt16.toNat_ofNat']
      omega
    refine .unit ?_ ?_ h
    · rw [isHighSurrogate_eq_false_iff]
      omega
    · rw [isLowSurrogate_eq_false_iff]
      omega
  next hn =>
    refine .pair ?_ ?_ h
    · rw [isHighSurrogate_iff, UInt16.toNat_ofNat']
      omega
    · rw [isLowSurrogate_iff, UInt16.toNat_ofNat']
      omega

theorem zero_mem_encodeChar_iff (c : Char) : 0 ∈ encodeChar c ↔ c = nul := by
  have hv : c.toNat < 0xD800 ∨ 0xDFFF < c.toNat ∧ c.toNat < 0x110000 := c.valid
  have hzero (n : Nat) : 0 = UInt16.ofNat n ↔ n % 2 ^ 16 = 0 := by
    rw [← UInt16.toNat_inj, UInt16.toNat_ofNat']
    exact eq_comm
  rw [← Char.toNat_inj]
  unfold encodeChar
  simp only
  have hnul : nul.toNat = 0 := rfl
  rw [hnul]
  generalize c.toNat = n at hv
  split
  next hn =>
    rw [List.mem_singleton, hzero]
    omega
  next hn =>
    simp only [List.mem_cons, List.not_mem_nil, or_false, hzero]
    omega

/-! ### Texts -/

theorem wellFormed_flatMap_encodeChar (cs : List Char) : WellFormed (cs.flatMap encodeChar) := by
  induction cs with
  | nil => exact .nil
  | cons c cs ih =>
    rw [List.flatMap_cons]
    exact ih.encodeChar_append c

/-- By induction on the units: each character is read off what it is written as. -/
theorem WellFormed.exists_decodeChars? {units : List UInt16} (h : WellFormed units) :
    ∃ cs, decodeChars? units = some cs ∧ cs.flatMap encodeChar = units := by
  induction h with
  | nil => exact ⟨[], rfl, rfl⟩
  | @unit u rest notHigh notLow _ ih =>
    obtain ⟨cs, hdecode, hencode⟩ := ih
    have hunit := encodeChar_of_unit notHigh notLow
    have hread := decodeChars?_encodeChar_append (Char.ofNat u.toNat) rest
    rw [hunit, hdecode] at hread
    refine ⟨_, hread, ?_⟩
    rw [List.flatMap_cons, hunit, hencode]
    rfl
  | @pair u v rest high low _ ih =>
    obtain ⟨cs, hdecode, hencode⟩ := ih
    have hpair := encodeChar_of_pair high low
    have hread := decodeChars?_encodeChar_append
      (Char.ofNat (0x10000 + (u.toNat - 0xD800) * 0x400 + (v.toNat - 0xDC00))) rest
    rw [hpair, hdecode] at hread
    refine ⟨_, hread, ?_⟩
    rw [List.flatMap_cons, hpair, hencode]
    rfl

theorem wellFormed_of_decodeChars? {units : List UInt16} {cs : List Char}
    (h : decodeChars? units = some cs) : WellFormed units := by
  induction units using decodeChars?.induct generalizing cs with
  | case1 => exact .nil
  | case2 u lone =>
    simp [decodeChars?, lone] at h
  | case3 u lone =>
    rw [Bool.not_eq_true, Bool.or_eq_false_iff] at lone
    exact .unit lone.1 lone.2 .nil
  | case4 u v rest high low ih =>
    simp only [decodeChars?, high, low, if_true, Option.map_eq_some_iff] at h
    obtain ⟨others, hrest, -⟩ := h
    exact .pair high low (ih hrest)
  | case5 u v rest high low => simp [decodeChars?, high, low] at h
  | case6 u v rest high low => simp [decodeChars?, high, low] at h
  | case7 u v rest high low ih =>
    rw [Bool.not_eq_true] at high low
    simp only [decodeChars?, high, low, Bool.false_eq_true, if_false, Option.map_eq_some_iff] at h
    obtain ⟨others, hrest, -⟩ := h
    exact .unit high low (ih hrest)

theorem wellFormed_encode (s : String) : WellFormed (encode s) :=
  wellFormed_flatMap_encodeChar s.toList

/-- Units are read as the text that they encode, and as no other. -/
theorem decode?_eq_some_iff {units : List UInt16} {s : String} :
    decode? units = some s ↔ encode s = units := by
  constructor
  · intro h
    obtain ⟨cs, hdecode, rfl⟩ := Option.map_eq_some_iff.mp h
    obtain ⟨cs', hdecode', hencode⟩ := (wellFormed_of_decodeChars? hdecode).exists_decodeChars?
    obtain rfl : cs = cs' := Option.some.inj (hdecode.symm.trans hdecode')
    rw [encode, String.toList_ofList, hencode]
  · rintro rfl
    exact decode?_encode s

theorem decode?_eq_none_iff {units : List UInt16} : decode? units = none ↔ ¬WellFormed units := by
  constructor
  · intro h well
    obtain ⟨cs, hdecode, -⟩ := well.exists_decodeChars?
    rw [decode?, hdecode] at h
    cases h
  · intro ill
    rw [Option.eq_none_iff_forall_ne_some]
    intro s h
    rw [decode?_eq_some_iff] at h
    exact ill (h ▸ wellFormed_encode s)

theorem zero_mem_encode_iff (s : String) : 0 ∈ encode s ↔ nul ∈ s.toList := by
  simp [encode, List.mem_flatMap, zero_mem_encodeChar_iff]

end NextBoot.Text.Utf16
