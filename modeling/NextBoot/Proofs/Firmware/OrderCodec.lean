import Mathlib.Data.List.Forall2
import NextBoot.Proofs.Firmware.StoredOrder
import NextBoot.Proofs.Text.HexDigits

/-! The boot order in bytes and in digits. Every byte string of even length is one order, and the
text of an order names its indices one by one, so that no two orders are shown alike. -/
namespace NextBoot.Firmware.BootOrder

theorem length_encode (order : BootOrder) :
    order.encode.length = 2 * order.indices.length := by
  obtain ⟨indices⟩ := order
  induction indices with
  | nil => rfl
  | cons i rest ih =>
    simp only [encode] at ih
    simp only [encode, List.flatMap_cons, List.length_append, ih, Bytes.ofWord16, List.length_cons,
      List.length_nil]
    omega

/-- By induction along the bytes, two at a time. -/
theorem flatMap_of_decodeWords? {raw : Bytes} {indices : List UInt16}
    (h : decodeWords? raw = some indices) : indices.flatMap Bytes.ofWord16 = raw := by
  induction raw using decodeWords?.induct generalizing indices with
  | case1 =>
    obtain rfl : [] = indices := Option.some.inj h
    rfl
  | case2 => cases h
  | case3 b₀ b₁ rest ih =>
    rw [decodeWords?] at h
    obtain ⟨later, hlater, rfl⟩ := Option.map_eq_some_iff.mp h
    rw [List.flatMap_cons, ih hlater, Bytes.ofWord16_word16]
    rfl

theorem encode_of_decode {raw : Bytes} {order : BootOrder} (h : decode raw = .ok order) :
    order.encode = raw := by
  unfold decode at h
  split at h
  next indices hwords =>
    obtain rfl : ⟨indices⟩ = order := Except.ok.inj h
    exact flatMap_of_decodeWords? hwords
  next => cases h

theorem decode_of_odd {raw : Bytes} (h : raw.length % 2 = 1) :
    decode raw = .error (.malformedOrder raw.length) := by
  rw [decode, (decodeWords?_eq_none_iff raw).mpr h]

/-- Each index stands where twice its position says, its low byte first. -/
theorem getElem?_encode {order : BootOrder} {k : Nat} {i : UInt16}
    (h : order.indices[k]? = some i) : ∃ low high : UInt8,
      order.encode[2 * k]? = some low ∧ order.encode[2 * k + 1]? = some high ∧
      i.toNat = low.toNat + 256 * high.toNat := by
  obtain ⟨indices⟩ := order
  induction indices generalizing k with
  | nil => cases h
  | cons j rest ih =>
    cases k with
    | zero =>
      obtain rfl : j = i := Option.some.inj h
      refine ⟨UInt8.ofNat j.toNat, UInt8.ofNat (j.toNat / 256), rfl, rfl, ?_⟩
      have hj := j.toNat_lt
      simp only [UInt8.toNat_ofNat']
      omega
    | succ k => exact ih h

/-! ### The text -/

def IsUpperDigit (c : Char) : Prop := '0' ≤ c ∧ c ≤ '9' ∨ 'A' ≤ c ∧ c ≤ 'F'

/-- The digits of one index. -/
structure Group (digits : List Char) (i : UInt16) : Prop where
  size : digits.length = 4
  upper : ∀ c ∈ digits, IsUpperDigit c
  value : Text.natural? 16 digits = some i.toNat

theorem isUpperDigit_hexDigit {n : Nat} (h : n < 16) : IsUpperDigit (Text.hexDigit .upper n) := by
  have digits : ∀ d : Fin 16, IsUpperDigit (Text.hexDigit .upper d) := by
    unfold IsUpperDigit
    decide
  exact digits ⟨n, h⟩

theorem isUpperDigit_of_mem_hexPadded {c : Char} {width n : Nat}
    (h : c ∈ Text.hexPadded .upper width n) : IsUpperDigit c := by
  obtain ⟨d, hd, rfl⟩ := Text.exists_hexDigit_of_mem_hexPadded h
  exact isUpperDigit_hexDigit hd

theorem group_hexPadded (i : UInt16) : Group (Text.hexPadded .upper 4 i.toNat) i where
  size := Text.length_hexPadded ..
  upper _ h := isUpperDigit_of_mem_hexPadded h
  value := by
    rw [Text.natural?_hexPadded, Nat.mod_eq_of_lt (by exact i.toNat_lt)]

theorem Group.comma_notMem {digits : List Char} {i : UInt16} (g : Group digits i) :
    ',' ∉ digits := by
  intro h
  exact absurd (g.upper ',' h) (by unfold IsUpperDigit; decide)

/-- A group is the digits of one index only. -/
theorem Group.index_unique {digits : List Char} {i j : UInt16} (g : Group digits i)
    (g' : Group digits j) : i = j := by
  have h := g.value
  rw [g'.value] at h
  exact UInt16.toNat_inj.mp (Option.some.inj h).symm

theorem splitOn_text {order : BootOrder} (ne : order ≠ empty) :
    order.text.toList.splitOn ',' =
      order.indices.map fun i => Text.hexPadded .upper 4 i.toNat := by
  have hchars : order.text.toList =
      [','].intercalate (order.indices.map fun i => Text.hexPadded .upper 4 i.toNat) := by
    simp [text, String.toList_intercalate, Function.comp_def]
  rw [hchars]
  apply List.splitOn_intercalate
  · intro digits hdigits
    obtain ⟨i, -, rfl⟩ := List.mem_map.mp hdigits
    exact (group_hexPadded i).comma_notMem
  · intro hnil
    exact ne (congrArg mk (List.map_eq_nil_iff.mp hnil))

theorem groups_text {order : BootOrder} (ne : order ≠ empty) :
    List.Forall₂ Group (order.text.toList.splitOn ',') order.indices := by
  rw [splitOn_text ne, List.forall₂_map_left_iff]
  exact List.forall₂_same.mpr fun i _ => group_hexPadded i

theorem text_eq_empty_iff {order : BootOrder} : order.text = "" ↔ order = empty := by
  constructor
  · intro h
    by_contra ne
    have hgroups := groups_text ne
    rw [h] at hgroups
    -- The empty text is one group without digits.
    obtain ⟨i, _, first, -, -⟩ := List.forall₂_cons_left_iff.mp hgroups
    exact absurd first.size (by decide)
  · rintro rfl
    rfl

theorem text_injective : Function.Injective text := by
  intro order order' h
  by_cases hempty : order = empty
  · have hempty' := text_eq_empty_iff.mp (h.symm.trans (text_eq_empty_iff.mpr hempty))
    rw [hempty, hempty']
  · have hgroups := groups_text hempty
    rw [h] at hgroups
    have hempty' : order' ≠ empty := by
      intro he
      exact hempty (text_eq_empty_iff.mp (h.trans (text_eq_empty_iff.mpr he)))
    have hunique : Relator.RightUnique Group := fun _ _ _ g g' => g.index_unique g'
    exact congrArg mk (List.right_unique_forall₂' hunique hgroups (groups_text hempty'))

/-- Each byte string of even length is one order, and each text shows one order. -/
theorem codec_spec :
    (∀ order : BootOrder, decode order.encode = .ok order ∧
      order.encode.length = 2 * order.indices.length ∧
      ∀ k i, order.indices[k]? = some i → ∃ low high : UInt8,
        order.encode[2 * k]? = some low ∧ order.encode[2 * k + 1]? = some high ∧
        i.toNat = low.toNat + 256 * high.toNat) ∧
    (∀ raw : Bytes,
      (raw.length % 2 = 0 → ∃ order, decode raw = .ok order ∧ order.encode = raw) ∧
      (raw.length % 2 = 1 → decode raw = .error (.malformedOrder raw.length))) ∧
    Function.Injective text ∧ empty.text = "" ∧
    ∀ order : BootOrder, order ≠ empty →
      List.Forall₂ Group (order.text.toList.splitOn ',') order.indices := by
  refine ⟨?_, ?_, text_injective, rfl, fun order ne => groups_text ne⟩
  · intro order
    exact ⟨decode_encode order, length_encode order, fun k i h => getElem?_encode h⟩
  · intro raw
    refine ⟨fun heven => ?_, decode_of_odd⟩
    obtain ⟨order, horder⟩ := (exists_decode_eq_ok_iff raw).mpr heven
    exact ⟨order, horder, encode_of_decode horder⟩

/-- An index with letters in its digits. -/
example : (⟨[7, 1, 0x1A]⟩ : BootOrder).text = "0007,0001,001A" := by decide +kernel

end NextBoot.Firmware.BootOrder
