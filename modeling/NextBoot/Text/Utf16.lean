/-! UTF-16 code units. Decoding gives back every text that was encoded. -/
namespace NextBoot.Text.Utf16

def encodeChar (c : Char) : List UInt16 :=
  let n := c.toNat
  if n < 0x10000 then [UInt16.ofNat n]
  else
    [UInt16.ofNat (0xD800 + (n - 0x10000) / 0x400), UInt16.ofNat (0xDC00 + (n - 0x10000) % 0x400)]

def encode (s : String) : List UInt16 := s.toList.flatMap encodeChar

def isHighSurrogate (u : UInt16) : Bool := 0xD800 ≤ u.toNat && u.toNat < 0xDC00

def isLowSurrogate (u : UInt16) : Bool := 0xDC00 ≤ u.toNat && u.toNat < 0xE000

theorem isHighSurrogate_iff (u : UInt16) :
    isHighSurrogate u = true ↔ 0xD800 ≤ u.toNat ∧ u.toNat < 0xDC00 := by
  simp [isHighSurrogate]

theorem isLowSurrogate_iff (u : UInt16) :
    isLowSurrogate u = true ↔ 0xDC00 ≤ u.toNat ∧ u.toNat < 0xE000 := by
  simp [isLowSurrogate]

/-- The characters of the units, if every surrogate is half of a pair in order. -/
def decodeChars? : List UInt16 → Option (List Char)
  | [] => some []
  | [u] =>
    if isHighSurrogate u || isLowSurrogate u then none else some [Char.ofNat u.toNat]
  | u :: v :: rest =>
    if isHighSurrogate u then
      if isLowSurrogate v then
        (decodeChars? rest).map
          (Char.ofNat (0x10000 + (u.toNat - 0xD800) * 0x400 + (v.toNat - 0xDC00)) :: ·)
      else none
    else if isLowSurrogate u then none
    else (decodeChars? (v :: rest)).map (Char.ofNat u.toNat :: ·)

/-- The units of one character are read as that character, whatever follows. -/
theorem decodeChars?_encodeChar_append (c : Char) (rest : List UInt16) :
    decodeChars? (encodeChar c ++ rest) = (decodeChars? rest).map (c :: ·) := by
  have hv : c.toNat < 0xD800 ∨ 0xDFFF < c.toNat ∧ c.toNat < 0x110000 := by
    have h := c.valid
    simp only [UInt32.isValidChar, Nat.isValidChar] at h
    exact h
  have hc : Char.ofNat c.toNat = c := Char.ofNat_toNat c
  unfold encodeChar
  generalize c.toNat = n at *
  by_cases hn : n < 0x10000
  · have hu : (UInt16.ofNat n).toNat = n := by
      rw [UInt16.toNat_ofNat']
      omega
    have hh : isHighSurrogate (UInt16.ofNat n) = false := by
      rw [Bool.eq_false_iff, ne_eq, isHighSurrogate_iff]
      omega
    have hl : isLowSurrogate (UInt16.ofNat n) = false := by
      rw [Bool.eq_false_iff, ne_eq, isLowSurrogate_iff]
      omega
    simp only [hn, if_true, List.singleton_append]
    cases rest with
    | nil => simp [decodeChars?, hh, hl, hu, hc]
    | cons v rest => simp [decodeChars?, hh, hl, hu, hc]
  · have hu : (UInt16.ofNat (0xD800 + (n - 0x10000) / 0x400)).toNat =
        0xD800 + (n - 0x10000) / 0x400 := by
      rw [UInt16.toNat_ofNat']
      omega
    have hw : (UInt16.ofNat (0xDC00 + (n - 0x10000) % 0x400)).toNat =
        0xDC00 + (n - 0x10000) % 0x400 := by
      rw [UInt16.toNat_ofNat']
      omega
    simp only [hn, if_false, List.cons_append, List.nil_append]
    rw [decodeChars?, if_pos ((isHighSurrogate_iff _).mpr (by omega)),
      if_pos ((isLowSurrogate_iff _).mpr (by omega)), hu, hw]
    rw [show 0x10000 + (0xD800 + (n - 0x10000) / 0x400 - 0xD800) * 0x400 +
      (0xDC00 + (n - 0x10000) % 0x400 - 0xDC00) = n by omega, hc]

theorem decodeChars?_flatMap_encodeChar (cs : List Char) :
    decodeChars? (cs.flatMap encodeChar) = some cs := by
  induction cs with
  | nil => rfl
  | cons c cs ih => simp [List.flatMap_cons, decodeChars?_encodeChar_append, ih]

def decode? (units : List UInt16) : Option String := (decodeChars? units).map String.ofList

@[simp] theorem decode?_encode (s : String) : decode? (encode s) = some s := by
  simp [decode?, encode, decodeChars?_flatMap_encodeChar]

end NextBoot.Text.Utf16
