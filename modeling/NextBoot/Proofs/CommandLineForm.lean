import NextBoot.Proofs.Text.EncodedParts
import NextBoot.Proofs.Text.Trimmed

/-! The form of decoded command lines. The zeros at the end are taken off before the blanks are, so a
NUL with blanks behind it is left at the end of the text, and decoding that text again takes it off. -/
namespace NextBoot

namespace Text

/-- Taking off a NUL makes the text shorter for good. -/
theorem trim_dropTrailingNuls_eq_self_iff {s : String} (h : Trimmed s.toList) :
    trim (dropTrailingNuls s) = s ↔ s.toList.getLast? ≠ some nul := by
  constructor
  · intro hsame hlast
    obtain ⟨front, hs⟩ := List.getLast?_eq_some_iff.mp hlast
    have hchars : trimChars (s.toList.rdropWhile (· = nul)) = s.toList := by
      simpa [trim, dropTrailingNuls] using congrArg String.toList hsame
    have hle := length_trimChars_le (s.toList.rdropWhile (· = nul))
    rw [hchars, hs, List.rdropWhile_concat_pos _ _ _ (by simp)] at hle
    have hfront := (List.rdropWhile_prefix (· = nul) front).length_le
    simp only [List.length_append, List.length_singleton] at hle
    omega
  · intro hlast
    have hkept : dropTrailingNuls s = s := by
      rw [dropTrailingNuls, List.rdropWhile_eq_self_iff.mpr, String.ofList_toList]
      intro hne hnul
      exact hlast (by rw [List.getLast?_eq_some_getLast hne, of_decide_eq_true hnul])
    rw [hkept, trim_eq_self h]

end Text

namespace CommandLine

/-- A NUL has blanks behind it, and nothing else but zeros. -/
def NulBeforeBlanks (stored : Bytes) : Prop :=
  ∃ front blanks n, blanks ≠ "" ∧ (∀ c ∈ blanks.toList, Text.isBlank c = true) ∧
    stored = front ++ 0 :: Text.Utf8.encode blanks ++ List.replicate n 0

theorem trimmed_decode (stored : Bytes) : Text.Trimmed (decode stored).toList :=
  Text.trimmed_trim _

/-- Blanks are no NULs, so the zeros of the stored form end where the blanks do. -/
theorem getLast?_decode_of_nulBeforeBlanks {stored : Bytes} (h : NulBeforeBlanks stored) :
    (decode stored).toList.getLast? = some Text.nul := by
  obtain ⟨front, blanks, n, hne, hblanks, rfl⟩ := h
  obtain ⟨initial, c, hlast⟩ : ∃ initial c, blanks.toList = initial ++ [c] := by
    rcases List.eq_nil_or_concat blanks.toList with hnil | hconcat
    · exact absurd (String.toList_eq_nil_iff.mp hnil) hne
    · simpa using hconcat
  have hc : c ≠ Text.nul := by
    rintro rfl
    exact absurd (hblanks Text.nul (by simp [hlast])) (by decide)
  obtain ⟨bytes, last, hencode, hzero⟩ := Text.Utf8.exists_encodeChar_eq_concat hc
  have hkept : Bytes.dropTrailingZeros
      (front ++ 0 :: Text.Utf8.encode blanks ++ List.replicate n 0) =
        front ++ 0 :: Text.Utf8.encode blanks := by
    rw [Bytes.dropTrailingZeros_append_replicate]
    apply Bytes.dropTrailingZeros_of_getLast?_ne
    simp [Text.Utf8.encode, hlast, hencode, hzero, List.getLast?_append, List.getLast?_cons]
  obtain ⟨before, htext⟩ := Text.Utf8.exists_decodeLossy_zero front blanks
  rw [decode, hkept, Text.trim, String.toList_ofList, htext,
    Text.getLast?_trimChars_eq_some_iff (by decide)]
  exact ⟨before, blanks.toList, rfl, hblanks⟩

/-- Without blanks behind it the NUL would be one of the zeros at the end, which are gone. -/
theorem nulBeforeBlanks_of_getLast?_decode {stored : Bytes}
    (h : (decode stored).toList.getLast? = some Text.nul) : NulBeforeBlanks stored := by
  rw [decode, Text.trim, String.toList_ofList, Text.getLast?_trimChars_eq_some_iff (by decide)] at h
  obtain ⟨front, blanks, htext, hblanks⟩ := h
  have whole : '\uFFFD' ∉ Text.nul :: blanks := by
    intro hmem
    rcases List.mem_cons.mp hmem with hnul | hblank
    · exact absurd hnul (by decide)
    · exact absurd (hblanks _ hblank) (by decide)
  obtain ⟨before, hbytes⟩ := Text.Utf8.exists_front_of_decodeLossy htext whole
  have hnul : String.utf8EncodeChar Text.nul = [0] := by decide
  rw [List.flatMap_cons, hnul, List.singleton_append] at hbytes
  have hne : blanks ≠ [] := by
    rintro rfl
    exact Bytes.getLast?_dropTrailingZeros_ne stored (by simp [hbytes])
  obtain ⟨n, hzeros⟩ := Bytes.exists_eq_dropTrailingZeros_append stored
  refine ⟨before, String.ofList blanks, n, ?_, by simpa using hblanks, ?_⟩
  · intro hempty
    exact hne (by simpa using congrArg String.toList hempty)
  · rw [hzeros, hbytes, Text.Utf8.encode, String.toList_ofList]

theorem decode_encode_append (s : String) (n : Nat) :
    decode (Text.Utf8.encode s ++ List.replicate n 0) = Text.trim (Text.dropTrailingNuls s) := by
  have hpad : Text.Utf8.encode s ++ List.replicate n 0 =
      (Text.Utf8.encode s).padTo ((Text.Utf8.encode s).length + n) := by
    rw [Bytes.padTo, Nat.add_sub_cancel_left]
  rw [hpad, decode_padTo]

/-- Decoded text has no blank at either end. It ends in a NUL just if the stored form holds one with
blanks and then zeros behind it; otherwise decoding its encoding again, with zeros or without, gives the
same text. -/
theorem decode_normalForm (stored : Bytes) :
    Text.Trimmed (decode stored).toList ∧
      ((decode stored).toList.getLast? = some Text.nul ↔ NulBeforeBlanks stored) ∧
      ∀ n, decode (Text.Utf8.encode (decode stored) ++ List.replicate n 0) =
          Text.trim (Text.dropTrailingNuls (decode stored)) ∧
        (decode (Text.Utf8.encode (decode stored) ++ List.replicate n 0) = decode stored ↔
          ¬NulBeforeBlanks stored) := by
  have hlast : (decode stored).toList.getLast? = some Text.nul ↔ NulBeforeBlanks stored :=
    ⟨nulBeforeBlanks_of_getLast?_decode, getLast?_decode_of_nulBeforeBlanks⟩
  refine ⟨trimmed_decode stored, hlast, fun n => ⟨decode_encode_append _ n, ?_⟩⟩
  rw [decode_encode_append, ← hlast]
  exact Text.trim_dropTrailingNuls_eq_self_iff (trimmed_decode stored)

/-- The first decoding leaves the NUL that the blank stood behind; the second takes it off. -/
theorem decode_nulBeforeBlanks :
    decode [0x61, 0, 0x20] = "a\x00" ∧
      decode (Text.Utf8.encode (decode [0x61, 0, 0x20])) = "a" := by
  decide +kernel

end CommandLine

end NextBoot
