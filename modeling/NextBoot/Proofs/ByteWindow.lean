import Mathlib.Data.List.DropRight
import NextBoot.Bytes

/-! Windows of a byte string: what a read of one window sees, and what a write over another leaves
as it was. -/
namespace NextBoot.Bytes

/-- Both hold the same bytes, or neither any, at every place in a set. -/
def AgreeOn (places : Nat → Prop) (a b : Bytes) : Prop := ∀ i, places i → a[i]? = b[i]?

/-- The places from `offset` on, `size` of them. -/
def window (offset size : Nat) (i : Nat) : Prop := offset ≤ i ∧ i < offset + size

theorem AgreeOn.mono {a b : Bytes} {places fewer : Nat → Prop} (h : AgreeOn places a b)
    (hf : ∀ i, fewer i → places i) : AgreeOn fewer a b := fun i hi => h i (hf i hi)

theorem AgreeOn.symm {a b : Bytes} {places : Nat → Prop} (h : AgreeOn places a b) :
    AgreeOn places b a := fun i hi => (h i hi).symm

theorem getElem?_slice (b : Bytes) (offset size i : Nat) :
    (b.slice offset size)[i]? = if i < size then b[offset + i]? else none := by
  rw [slice, List.getElem?_take]
  split
  · rw [List.getElem?_drop]
  · rfl

@[simp] theorem length_slice (b : Bytes) (offset size : Nat) :
    (b.slice offset size).length = min size (b.length - offset) := by
  simp [slice]

theorem length_slice_of_le {b : Bytes} {offset size : Nat} (h : offset + size ≤ b.length) :
    (b.slice offset size).length = size := by
  rw [length_slice]
  omega

theorem slice_of_length_le {b : Bytes} {offset : Nat} (h : b.length ≤ offset) (size : Nat) :
    b.slice offset size = [] := by
  rw [slice, List.drop_eq_nil_of_le h, List.take_nil]

theorem slice_append_slice (b : Bytes) (offset first rest : Nat) :
    b.slice offset first ++ b.slice (offset + first) rest = b.slice offset (first + rest) := by
  rw [slice, slice, slice, List.take_add, List.drop_drop]

theorem slice_slice {start inner size : Nat} (h : start + inner ≤ size) (b : Bytes) (offset : Nat) :
    (b.slice offset size).slice start inner = b.slice (offset + start) inner := by
  apply List.ext_getElem?
  intro i
  rw [getElem?_slice, getElem?_slice, getElem?_slice]
  split
  next hi => rw [if_pos (by omega), Nat.add_assoc]
  next => rfl

/-- What a slice has is as much of it as there is. -/
theorem slice_length_slice (b : Bytes) (offset size : Nat) :
    b.slice offset (b.slice offset size).length = b.slice offset size := by
  rw [slice, slice, List.length_take, ← List.take_eq_take_min]

theorem AgreeOn.slice_eq {a b : Bytes} {offset size : Nat} (h : AgreeOn (window offset size) a b) :
    a.slice offset size = b.slice offset size := by
  apply List.ext_getElem?
  intro i
  rw [getElem?_slice, getElem?_slice]
  split
  next hi => exact h _ ⟨Nat.le_add_right _ _, Nat.add_lt_add_left hi _⟩
  next => rfl

/-- A complete read looks at its window only. -/
theorem AgreeOn.readAt?_eq {a b : Bytes} {offset size : Nat}
    (h : AgreeOn (window offset size) a b) : a.readAt? offset size = b.readAt? offset size := by
  have hs : (a.drop offset).take size = (b.drop offset).take size := h.slice_eq
  simp only [readAt?, hs]

theorem getElem?_of_readAt? {b : Bytes} {offset size : Nat} {v : Vector UInt8 size}
    (h : b.readAt? offset size = some v) (i : Nat) (hi : i < size) : b[offset + i]? = some v[i] := by
  simp only [readAt?] at h
  split at h
  next hl =>
    obtain rfl := Option.some.inj h
    have hlt : i < ((b.drop offset).take size).length := by omega
    have he : ((b.drop offset).take size)[i]? = b[offset + i]? := by
      rw [List.getElem?_take_of_lt hi, List.getElem?_drop]
    rw [← he, List.getElem?_eq_getElem hlt]
    simp
  next => cases h

theorem getD_of_readAt? {b : Bytes} {offset size : Nat} {v : Vector UInt8 size}
    (h : b.readAt? offset size = some v) (i : Nat) (hi : i < size) :
    b.getD (offset + i) 0 = v[i] := by
  rw [List.getD_eq_getElem?_getD, getElem?_of_readAt? h i hi, Option.getD_some]

/-! ### Parts that are joined -/

section Parts
variable {before part after : Bytes}

theorem slice_part : (before ++ (part ++ after)).slice before.length part.length = part := by
  rw [slice, List.drop_left, List.take_left]

theorem readAt?_part {size : Nat} (h : part.length = size) :
    (before ++ (part ++ after)).readAt? before.length size =
      some ⟨part.toArray, by simpa using h⟩ := by
  subst h
  have hs : ((before ++ (part ++ after)).drop before.length).take part.length = part := slice_part
  simp only [readAt?, hs, dif_pos]

end Parts

/-! ### Writing inside a byte string -/

section Write
variable {b data : Bytes} {offset : Nat}

theorem writeAt_eq (h : offset + data.length ≤ b.length) :
    b.writeAt offset data = b.take offset ++ data ++ b.drop (offset + data.length) := by
  unfold writeAt
  split
  next he => simp [List.isEmpty_iff.mp he]
  next => rw [Nat.sub_eq_zero_of_le (by omega), List.replicate_zero, List.append_nil]

theorem length_writeAt (h : offset + data.length ≤ b.length) :
    (b.writeAt offset data).length = b.length := by
  rw [writeAt_eq h]
  simp
  omega

theorem getElem?_writeAt (h : offset + data.length ≤ b.length) (i : Nat) :
    (b.writeAt offset data)[i]? =
      if offset ≤ i ∧ i < offset + data.length then data[i - offset]? else b[i]? := by
  have ht : (b.take offset).length = offset := by
    rw [List.length_take]
    omega
  rw [writeAt_eq h, List.append_assoc]
  by_cases hlow : i < offset
  · rw [List.getElem?_append_left (by omega), List.getElem?_take_of_lt hlow, if_neg (by omega)]
  rw [List.getElem?_append_right (by omega), ht]
  by_cases hhigh : i < offset + data.length
  · rw [List.getElem?_append_left (by omega), if_pos ⟨by omega, hhigh⟩]
  · rw [List.getElem?_append_right (by omega), List.getElem?_drop, if_neg (by omega)]
    congr 1
    omega

/-- Writing changes nothing outside what is written over. -/
theorem agreeOn_writeAt (h : offset + data.length ≤ b.length) :
    AgreeOn (fun i => ¬window offset data.length i) (b.writeAt offset data) b := by
  intro i hi
  exact (getElem?_writeAt h i).trans (if_neg hi)

theorem slice_writeAt (h : offset + data.length ≤ b.length) :
    (b.writeAt offset data).slice offset data.length = data := by
  apply List.ext_getElem?
  intro i
  rw [getElem?_slice]
  split
  next hi =>
    rw [getElem?_writeAt h, if_pos ⟨by omega, by omega⟩, Nat.add_sub_cancel_left]
  next hi => rw [List.getElem?_eq_none (by omega)]

/-- The later of two writes to one place leaves no trace of the earlier. -/
theorem writeAt_writeAt {later : Bytes} (hl : later.length = data.length)
    (h : offset + data.length ≤ b.length) :
    (b.writeAt offset data).writeAt offset later = b.writeAt offset later := by
  have hb : offset + later.length ≤ b.length := by omega
  apply List.ext_getElem?
  intro i
  rw [getElem?_writeAt (by rw [length_writeAt h]; exact hb), getElem?_writeAt hb]
  split
  next => rfl
  next hi => rw [getElem?_writeAt h, if_neg (by omega)]

end Write

/-! ### Zeros at the end -/

theorem length_padTo {b : Bytes} {size : Nat} (h : b.length ≤ size) : (b.padTo size).length = size := by
  simp [padTo]
  omega

theorem padTo_eq_ofFn {b : Bytes} {size : Nat} (h : b.length ≤ size) :
    b.padTo size = List.ofFn fun i : Fin size => b.getD i 0 := by
  apply List.ext_getElem
  · rw [length_padTo h, List.length_ofFn]
  · intro i hi _
    rw [length_padTo h] at hi
    simp only [padTo, List.getElem_ofFn, List.getElem_append, List.getD_eq_getElem?_getD]
    split
    next hb => rw [List.getElem?_eq_getElem hb, Option.getD_some]
    next hb =>
      rw [List.getElem?_eq_none (Nat.not_lt.mp hb), Option.getD_none, List.getElem_replicate]

@[simp] theorem dropTrailingZeros_append_zero (b : Bytes) :
    (b ++ [0]).dropTrailingZeros = b.dropTrailingZeros := by
  simp [dropTrailingZeros]

@[simp] theorem dropTrailingZeros_append_replicate (b : Bytes) (n : Nat) :
    (b ++ List.replicate n 0).dropTrailingZeros = b.dropTrailingZeros := by
  induction n with
  | zero => simp
  | succ n ih => rw [List.replicate_succ', ← List.append_assoc, dropTrailingZeros_append_zero, ih]

@[simp] theorem dropTrailingZeros_padTo (b : Bytes) (size : Nat) :
    (b.padTo size).dropTrailingZeros = b.dropTrailingZeros :=
  dropTrailingZeros_append_replicate b _

/-- What ends in another byte than zero keeps its end. -/
theorem dropTrailingZeros_append_of_ne {x : UInt8} (b : Bytes) (h : x ≠ 0) :
    (b ++ [x]).dropTrailingZeros = b ++ [x] := by
  simp [dropTrailingZeros, h]

theorem dropTrailingZeros_of_getLast?_ne {b : Bytes} (h : b.getLast? ≠ some 0) :
    b.dropTrailingZeros = b := by
  rcases List.eq_nil_or_concat b with rfl | ⟨rest, x, rfl⟩
  · rfl
  · rw [List.concat_eq_append] at h ⊢
    apply dropTrailingZeros_append_of_ne rest
    rintro rfl
    exact h List.getLast?_concat

theorem exists_eq_dropTrailingZeros_append (b : Bytes) :
    ∃ n, b = b.dropTrailingZeros ++ List.replicate n 0 := by
  have hzeros : b.rtakeWhile (· == 0) = List.replicate _ 0 :=
    List.eq_replicate_iff.mpr ⟨rfl, fun x hx => by simpa using List.mem_rtakeWhile_imp hx⟩
  have hsplit := List.rdropWhile_append_rtakeWhile (p := (· == 0)) (l := b)
  rw [hzeros] at hsplit
  exact ⟨_, hsplit.symm⟩

theorem getLast?_dropTrailingZeros_ne (b : Bytes) :
    b.dropTrailingZeros.getLast? ≠ some 0 := by
  intro hlast
  have hne : b.rdropWhile (· == 0) ≠ [] := List.ne_nil_of_mem (List.mem_of_getLast? hlast)
  apply List.rdropWhile_last_not (· == 0) b hne
  have hget : (b.rdropWhile (· == 0)).getLast? = some 0 := hlast
  rw [List.getLast?_eq_some_getLast hne, Option.some.injEq] at hget
  simp [hget]

/-! ### Bytes after the end -/

/-- A complete read does not look past the end. -/
theorem readAt?_append {b : Bytes} {offset size : Nat} {v : Vector UInt8 size}
    (h : b.readAt? offset size = some v) (after : Bytes) :
    (b ++ after).readAt? offset size = some v := by
  have hlen : size ≤ (b.drop offset).length := by
    simp only [readAt?] at h
    split at h
    next hl =>
      rw [List.length_take] at hl
      omega
    next => cases h
  have hs : ((b ++ after).drop offset).take size = (b.drop offset).take size := by
    rw [List.drop_append, List.take_append_of_le_length hlen]
  rw [← h]
  simp only [readAt?, hs]

theorem slice_append {b : Bytes} {offset size : Nat} (h : offset + size ≤ b.length)
    (after : Bytes) : (b ++ after).slice offset size = b.slice offset size := by
  have hlen : size ≤ (b.drop offset).length := by
    rw [List.length_drop]
    omega
  rw [slice, slice, List.drop_append, List.take_append_of_le_length hlen]

end NextBoot.Bytes
