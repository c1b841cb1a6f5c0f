import NextBoot.Image.Writer
import NextBoot.Proofs.Image.HeaderFields

/-! The headers that are written in front of an image are read back as what they were written for. -/
namespace NextBoot.Image

/-! ### The section table -/

/-- The header of a section whose payload is written at `offset`. -/
def headerOf (alignment offset : Nat) (s : NewSection) : SectionHeader where
  label := .ofFn fun i => s.name.getD i 0
  virtualSize := .ofNat s.payload.length
  rawSize := .ofNat (alignUp alignment s.payload.length)
  rawOffset := .ofNat offset

/-- The headers of sections whose payloads lie one after the other from `offset` on. -/
def headersOf (alignment : Nat) : (offset : Nat) → List NewSection → List SectionHeader
  | _, [] => []
  | offset, s :: rest =>
    headerOf alignment offset s ::
      headersOf alignment (offset + alignUp alignment s.payload.length) rest

section Table
variable {s : NewSection} {sections : List NewSection}

theorem length_newSectionHeader (alignment offset : Nat) (short : s.name.length ≤ 8) :
    (newSectionHeader alignment offset s).length = SectionHeader.size := by
  simp [newSectionHeader, Bytes.length_padTo short, Bytes.ofWord32, SectionHeader.size]

theorem length_newSectionTable (alignment offset : Nat)
    (short : ∀ s ∈ sections, s.name.length ≤ 8) :
    (newSectionTable alignment offset sections).length =
      SectionHeader.size * sections.length := by
  induction sections generalizing offset with
  | nil => rfl
  | cons s rest ih =>
    obtain ⟨hs, hrest⟩ := List.forall_mem_cons.mp short
    rw [newSectionTable, List.length_append, length_newSectionHeader _ _ hs, ih _ hrest,
      List.length_cons, Nat.mul_succ, Nat.add_comm]

/-- Each field is found in its place. -/
theorem ofBytes_newSectionHeader (alignment offset : Nat) (short : s.name.length ≤ 8)
    (size : (newSectionHeader alignment offset s).toArray.size = SectionHeader.size) :
    SectionHeader.ofBytes ⟨(newSectionHeader alignment offset s).toArray, size⟩ =
      headerOf alignment offset s := by
  have hname : s.name.padTo 8 = [s.name.getD 0 0, s.name.getD 1 0, s.name.getD 2 0,
      s.name.getD 3 0, s.name.getD 4 0, s.name.getD 5 0, s.name.getD 6 0, s.name.getD 7 0] :=
    Bytes.padTo_eq_ofFn short
  simp only [SectionHeader.ofBytes, newSectionHeader, hname, Bytes.ofWord32, headerOf,
    SectionHeader.mk.injEq]
  refine ⟨rfl, ?_, ?_, ?_⟩
  · exact Bytes.word32_ofWord32 _
  · exact Bytes.word32_ofWord32 _
  · exact Bytes.word32_ofWord32 _

/-- By induction on the sections, for whatever is written before and after their table. -/
theorem readHeaders?_newSectionTable (alignment offset : Nat)
    (short : ∀ s ∈ sections, s.name.length ≤ 8) (before after : Bytes) :
    readHeaders? (before ++ (newSectionTable alignment offset sections ++ after)) before.length
      sections.length = some (headersOf alignment offset sections) := by
  induction sections generalizing offset before with
  | nil => rfl
  | cons s rest ih =>
    obtain ⟨hs, hrest⟩ := List.forall_mem_cons.mp short
    have hsize := length_newSectionHeader alignment offset hs
    have htable := ih (offset + alignUp alignment s.payload.length) hrest
      (before ++ newSectionHeader alignment offset s)
    rw [List.length_append, hsize, List.append_assoc] at htable
    rw [newSectionTable, List.append_assoc, List.length_cons, readHeaders?, Bytes.readAt?_part hsize,
      htable, headersOf]
    simp only [bind, Option.bind, pure, ofBytes_newSectionHeader alignment offset hs]

end Table

/-! ### The headers before the table -/

/-- What follows the headers of an image with `count` sections. -/
def headed (count : Nat) (rest : Bytes) : Bytes :=
  newDosHeader ++ (newPeHeader count ++ (newOptionalHeader ++ rest))

section Headed
variable {count : Nat} (rest : Bytes)

theorem signatureOffset_headed : signatureOffset (headed count rest) = dosHeaderSize := rfl

theorem optionalSize_headed : optionalSize (headed count rest) = newOptionalHeader.length := rfl

theorem length_headed : (headed count rest).length =
    dosHeaderSize + peHeaderSize + newOptionalHeader.length + rest.length := by
  rw [headed, List.length_append, List.length_append, List.length_append, ← Nat.add_assoc,
    ← Nat.add_assoc]
  rfl

theorem tableOffset_headed : tableOffset (headed count rest) =
    (newDosHeader ++ (newPeHeader count ++ newOptionalHeader)).length := by
  rw [tableOffset, signatureOffset_headed, optionalSize_headed, List.length_append,
    List.length_append, ← Nat.add_assoc]
  rfl

theorem sectionCount_headed (limited : count ≤ sectionLimit) :
    sectionCount (headed count rest) = count := by
  have hword : sectionCount (headed count rest) = (UInt16.ofNat count).toNat :=
    congrArg UInt16.toNat (Bytes.word16_ofWord16 (UInt16.ofNat count))
  rw [hword]
  apply UInt16.toNat_ofNat_of_lt
  exact Nat.lt_of_le_of_lt limited (by decide)

theorem checkOptionalHeader_headed :
    checkOptionalHeader (headed count rest) (dosHeaderSize + peHeaderSize)
      newOptionalHeader.length = .ok () := by
  have hsplit : headed count rest = (newDosHeader ++ newPeHeader count) ++
      (Bytes.ofWord16 0x20b ++ (List.replicate 110 0 ++ rest)) := by
    simp only [headed, newOptionalHeader, List.append_assoc]
  have hmagic : (headed count rest).readAt? (dosHeaderSize + peHeaderSize) 2 =
      some ⟨(Bytes.ofWord16 0x20b).toArray, rfl⟩ := by
    rw [hsplit]
    exact Bytes.readAt?_part rfl
  unfold checkOptionalHeader
  rw [if_neg (by decide), hmagic]
  rfl

theorem readAt?_dosHeader :
    (headed count rest).readAt? 0 dosHeaderSize = some ⟨newDosHeader.toArray, rfl⟩ := by
  have hsplit : headed count rest = [] ++ (newDosHeader ++ (newPeHeader count ++
      (newOptionalHeader ++ rest))) := rfl
  rw [hsplit]
  exact Bytes.readAt?_part rfl

theorem readAt?_peHeader :
    (headed count rest).readAt? dosHeaderSize peHeaderSize =
      some ⟨(newPeHeader count).toArray, rfl⟩ :=
  Bytes.readAt?_part rfl

end Headed

/-- Whatever follows the section table, it is found and read back. -/
theorem hasHeaders_headed {sections : List NewSection} (alignment offset : Nat)
    (limited : sections.length ≤ sectionLimit) (short : ∀ s ∈ sections, s.name.length ≤ 8)
    (after : Bytes) :
    HasHeaders (headed sections.length (newSectionTable alignment offset sections ++ after))
      (headersOf alignment offset sections) where
  dos := by simp [readAt?_dosHeader]
  dosSignature := ⟨rfl, rfl⟩
  pe := by simp [signatureOffset_headed, readAt?_peHeader]
  peSignature := ⟨rfl, rfl, rfl, rfl⟩
  count := by rwa [sectionCount_headed _ limited]
  optional := checkOptionalHeader_headed _
  table := by
    have hsplit (rest : Bytes) : headed sections.length rest =
        (newDosHeader ++ (newPeHeader sections.length ++ newOptionalHeader)) ++ rest := by
      simp only [headed, List.append_assoc]
    rw [sectionCount_headed _ limited, tableOffset_headed, hsplit]
    exact readHeaders?_newSectionTable alignment offset short _ after

end NextBoot.Image
