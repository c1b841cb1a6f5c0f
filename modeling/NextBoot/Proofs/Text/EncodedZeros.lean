import Mathlib.Data.List.DropRight
import NextBoot.Payload
import NextBoot.Proofs.ByteWindow

/-! Bytes of ASCII in encoded text stand for their characters and nothing else. So zero bytes are the
encoded NULs, and taking them off the end takes off the NULs. -/
namespace NextBoot

namespace Text

def nul : Char := '\x00'

theorem toNat_ofNat {n : Nat} (h : n.isValidChar) : (Char.ofNat n).toNat = n := by
  rw [Char.ofNat, dif_pos h]
  rfl

/-- The text without the NULs at its end. -/
def dropTrailingNuls (s : String) : String := String.ofList (s.toList.rdropWhile (· = nul))

namespace Utf8

/-- The byte of an ASCII character stands for that character only. -/
theorem ascii_mem_encodeChar_iff {a : Char} (h : a.toNat < 0x80) (c : Char) :
    UInt8.ofNat a.toNat ∈ String.utf8EncodeChar c ↔ c = a := by
  have hb (n : Nat) : UInt8.ofNat a.toNat = UInt8.ofNat n ↔ n % 2 ^ 8 = a.toNat := by
    rw [← UInt8.toNat_inj, UInt8.toNat_ofNat', UInt8.toNat_ofNat', Nat.mod_eq_of_lt (by omega)]
    exact eq_comm
  have he : c.val.toNat = c.toNat := rfl
  rw [← Char.toNat_inj]
  unfold String.utf8EncodeChar
  simp only [he]
  generalize c.toNat = v
  split_ifs
  all_goals
    simp only [List.mem_cons, List.not_mem_nil, or_false, hb]
    omega

theorem ascii_mem_encode_iff {a : Char} (h : a.toNat < 0x80) (s : String) :
    UInt8.ofNat a.toNat ∈ encode s ↔ a ∈ s.toList := by
  simp [encode, List.mem_flatMap, ascii_mem_encodeChar_iff h]

theorem zero_mem_encodeChar_iff (c : Char) : 0 ∈ String.utf8EncodeChar c ↔ c = nul :=
  ascii_mem_encodeChar_iff (a := nul) (by decide) c

theorem encode_ofList_concat (cs : List Char) (c : Char) :
    encode (String.ofList (cs ++ [c])) = encode (String.ofList cs) ++ String.utf8EncodeChar c := by
  simp [encode]

/-- The last byte of a character that is not the NUL is not zero. -/
theorem exists_encodeChar_eq_concat {c : Char} (h : c ≠ nul) :
    ∃ front last, String.utf8EncodeChar c = front ++ [last] ∧ last ≠ 0 := by
  have hne : String.utf8EncodeChar c ≠ [] := String.utf8EncodeChar_ne_nil
  refine ⟨_, _, (List.dropLast_append_getLast hne).symm, ?_⟩
  intro hz
  have hmem := List.getLast_mem hne
  rw [hz, zero_mem_encodeChar_iff] at hmem
  exact h hmem

theorem dropTrailingZeros_encode_ofList (cs : List Char) :
    (encode (String.ofList cs)).dropTrailingZeros =
      encode (String.ofList (cs.rdropWhile (· = nul))) := by
  induction cs using List.reverseRecOn with
  | nil => rfl
  | append_singleton cs c ih =>
    rw [encode_ofList_concat, List.rdropWhile_concat]
    by_cases hc : c = nul
    · subst hc
      rw [if_pos (by simp), ← ih]
      exact Bytes.dropTrailingZeros_append_zero _
    · obtain ⟨front, last, he, hl⟩ := exists_encodeChar_eq_concat hc
      rw [if_neg (by simpa using hc), encode_ofList_concat, he, ← List.append_assoc]
      exact Bytes.dropTrailingZeros_append_of_ne _ hl

theorem dropTrailingZeros_encode (s : String) :
    (encode s).dropTrailingZeros = encode (dropTrailingNuls s) := by
  simpa [dropTrailingNuls] using dropTrailingZeros_encode_ofList s.toList

end Utf8

end Text

/-- A text that is stored with zeros after it is read back without the NULs at its end, and then
without the blanks around it. -/
theorem CommandLine.decode_padTo (s : String) (size : Nat) :
    decode ((Text.Utf8.encode s).padTo size) = Text.trim (Text.dropTrailingNuls s) := by
  rw [decode, Bytes.dropTrailingZeros_padTo, Text.Utf8.dropTrailingZeros_encode,
    Text.Utf8.decodeLossy_encode]

end NextBoot
