import Mathlib.Data.List.Forall2
import Mathlib.Tactic.Choose
import NextBoot.Proofs.Image.ExtractVerdict
import NextBoot.Proofs.Image.ReadRun
import NextBoot.Proofs.Image.WrittenTable

/-! Extraction undoes the writing of an image: what is read of each payload is what was written, and
nothing of what it was filled up with. -/
namespace NextBoot.Image

/-! ### Alignment -/

section Align
variable {alignment : Nat}

theorem le_alignUp (aligned : 0 < alignment) (n : Nat) : n ≤ alignUp alignment n := by
  have hdiv := Nat.div_add_mod (n + alignment - 1) alignment
  have hmod := Nat.mod_lt (n + alignment - 1) aligned
  rw [alignUp, Nat.mul_comm]
  omega

theorem alignUp_zero (aligned : 0 < alignment) : alignUp alignment 0 = 0 := by
  rw [alignUp, Nat.div_eq_of_lt (by omega), Nat.zero_mul]

theorem length_paddedPayload (aligned : 0 < alignment) (padding : UInt8) (s : NewSection) :
    (paddedPayload alignment padding s).length = alignUp alignment s.payload.length := by
  have hle := le_alignUp aligned s.payload.length
  rw [paddedPayload, List.length_append, List.length_replicate]
  omega

end Align

/-! ### Headers and what they stand for -/

/-- A name that a header can hold. -/
structure NewSection.Named (s : NewSection) : Prop where
  short : s.name.length ≤ 8
  ended : s.name.getLast? ≠ some 0

/-- The header names the section, and its payload lies where the header says. -/
structure SectionHeader.Holds (file : Bytes) (h : SectionHeader) (s : NewSection) : Prop where
  name : h.name = s.name
  inside : h.finish ≤ file.length
  payload : file.slice h.offset h.payloadSize = s.payload

section Header
variable {alignment offset : Nat} {padding : UInt8} {s : NewSection}

theorem name_headerOf (named : s.Named) : (headerOf alignment offset s).name = s.name := by
  have hlabel : (headerOf alignment offset s).label.toList = s.name.padTo 8 := by
    rw [Bytes.padTo_eq_ofFn named.short, headerOf, Vector.toList_ofFn]
  rw [SectionHeader.name, hlabel, Bytes.dropTrailingZeros_padTo,
    Bytes.dropTrailingZeros_of_getLast?_ne named.ended]

theorem offset_headerOf (small : offset < UInt32.size) :
    (headerOf alignment offset s).offset = offset := UInt32.toNat_ofNat_of_lt small

/-- The size in memory is that of the payload, and a size of zero is not made up for by padding. -/
theorem payloadSize_headerOf (aligned : 0 < alignment)
    (small : alignUp alignment s.payload.length < UInt32.size) :
    (headerOf alignment offset s).payloadSize = s.payload.length := by
  have hle := le_alignUp aligned s.payload.length
  have hraw : (headerOf alignment offset s).rawSize.toNat = alignUp alignment s.payload.length :=
    UInt32.toNat_ofNat_of_lt small
  have hvirtual : (headerOf alignment offset s).virtualSize.toNat = s.payload.length :=
    UInt32.toNat_ofNat_of_lt (Nat.lt_of_le_of_lt hle small)
  rw [SectionHeader.payloadSize, hraw, hvirtual]
  split
  next hzero =>
    rw [hzero, UInt32.toNat_zero] at hvirtual
    rw [← hvirtual, alignUp_zero aligned]
  next => exact Nat.min_eq_left hle

theorem holds_headerOf (aligned : 0 < alignment) (named : s.Named) (before after : Bytes)
    (small : (before ++ (paddedPayload alignment padding s ++ after)).length < UInt32.size) :
    (headerOf alignment before.length s).Holds
      (before ++ (paddedPayload alignment padding s ++ after)) s := by
  have hpadded := length_paddedPayload aligned padding s
  have hle := le_alignUp aligned s.payload.length
  rw [List.length_append, List.length_append, hpadded] at small
  have hoffset : (headerOf alignment before.length s).offset = before.length :=
    offset_headerOf (by omega)
  have hsize : (headerOf alignment before.length s).payloadSize = s.payload.length :=
    payloadSize_headerOf aligned (by omega)
  refine ⟨name_headerOf named, ?_, ?_⟩
  · rw [SectionHeader.finish, hoffset, hsize, List.length_append, List.length_append, hpadded]
    omega
  · rw [hoffset, hsize, paddedPayload, List.append_assoc]
    exact Bytes.slice_part

end Header

section Headers
variable {alignment : Nat} {padding : UInt8} {sections : List NewSection}

/-- By induction on the sections: what has been written before a payload is where it begins. -/
theorem holds_headersOf (aligned : 0 < alignment) (named : ∀ s ∈ sections, s.Named)
    (before : Bytes)
    (small : (before ++ sections.flatMap (paddedPayload alignment padding)).length < UInt32.size) :
    List.Forall₂ (SectionHeader.Holds (before ++ sections.flatMap (paddedPayload alignment padding)))
      (headersOf alignment before.length sections) sections := by
  induction sections generalizing before with
  | nil => exact .nil
  | cons s rest ih =>
    obtain ⟨hs, hrest⟩ := List.forall_mem_cons.mp named
    rw [List.flatMap_cons] at small ⊢
    have hlength : (before ++ paddedPayload alignment padding s).length =
        before.length + alignUp alignment s.payload.length := by
      rw [List.length_append, length_paddedPayload aligned]
    have hnext := ih hrest (before ++ paddedPayload alignment padding s)
    rw [List.append_assoc, hlength] at hnext
    exact .cons (holds_headerOf aligned hs before _ small) (hnext small)

/-- The first header of a payload's name is that of the first section of the name. -/
theorem firstHeader_rel {file : Bytes} {headers : List SectionHeader}
    (holds : List.Forall₂ (SectionHeader.Holds file) headers sections) (p : Payload) :
    Option.Rel (SectionHeader.Holds file) (firstHeader headers p)
      (sections.find? fun s => s.name = Text.Utf8.encode p.sectionName) := by
  unfold firstHeader
  induction holds with
  | nil => exact .none
  | @cons h s headers sections first rest ih =>
    rw [List.find?_cons, List.find?_cons, first.name]
    split
    · exact .some first
    · exact ih

end Headers

/-! ### Whole images -/

/-- What can be written so that all of it can be read back. -/
structure Writable (alignment : Nat) (padding : UInt8) (sections : List NewSection) : Prop where
  aligned : 0 < alignment
  limited : sections.length ≤ sectionLimit
  named : ∀ s ∈ sections, s.Named
  complete : ∀ p : Payload, ∃ s ∈ sections, s.name = Text.Utf8.encode p.sectionName
  /-- Every offset and size has room in its field. -/
  small : (newImage alignment padding sections).length < UInt32.size

/-- Where the first payload begins. -/
def newStart (alignment : Nat) (sections : List NewSection) : Nat :=
  alignUp alignment (newHeaderSize sections.length)

/-- All that comes before the first payload. -/
def newFront (alignment : Nat) (sections : List NewSection) : Bytes :=
  (headed sections.length
    (newSectionTable alignment (newStart alignment sections) sections)).padTo
      (newStart alignment sections)

def newHeaders (alignment : Nat) (sections : List NewSection) : List SectionHeader :=
  headersOf alignment (newStart alignment sections) sections

section Image
variable {alignment : Nat} {padding : UInt8} {sections : List NewSection}

theorem newImage_eq (alignment : Nat) (padding : UInt8) (sections : List NewSection) :
    newImage alignment padding sections =
      newFront alignment sections ++ sections.flatMap (paddedPayload alignment padding) := by
  simp only [newImage, newFront, newStart, headed, List.append_assoc]

theorem length_newFront (aligned : 0 < alignment) (named : ∀ s ∈ sections, s.Named) :
    (newFront alignment sections).length = newStart alignment sections := by
  apply Bytes.length_padTo
  have htable := length_newSectionTable alignment (newStart alignment sections)
    fun s hs => (named s hs).short
  rw [length_headed, htable]
  exact le_alignUp aligned (newHeaderSize sections.length)

theorem hasHeaders_newImage (w : Writable alignment padding sections) :
    HasHeaders (newImage alignment padding sections) (newHeaders alignment sections) := by
  rw [newImage_eq, newFront, Bytes.padTo, headed]
  simp only [List.append_assoc]
  exact hasHeaders_headed _ _ w.limited (fun s hs => (w.named s hs).short) _

theorem holds_newImage (w : Writable alignment padding sections) :
    List.Forall₂ (SectionHeader.Holds (newImage alignment padding sections))
      (newHeaders alignment sections) sections := by
  have hsmall := w.small
  rw [newImage_eq] at hsmall ⊢
  rw [newHeaders, ← length_newFront w.aligned w.named]
  exact holds_headersOf w.aligned w.named _ hsmall

theorem exists_firstHeader_newImage (w : Writable alignment padding sections) (p : Payload) :
    ∃ h s, firstHeader (newHeaders alignment sections) p = some h ∧
      sections.find? (fun s => s.name = Text.Utf8.encode p.sectionName) = some s ∧
      h.Holds (newImage alignment padding sections) s := by
  have hrel := firstHeader_rel (holds_newImage w) p
  obtain ⟨s, hs, hname⟩ := w.complete p
  cases hf : sections.find? (fun s => s.name = Text.Utf8.encode p.sectionName) with
  | none => exact absurd hname (by simpa using List.find?_eq_none.mp hf s hs)
  | some found =>
    rw [hf] at hrel
    generalize firstHeader (newHeaders alignment sections) p = header at hrel
    cases hrel with
    | some holds => exact ⟨_, found, rfl, rfl, holds⟩

end Image

/-- What is read of each payload of an image that was written, in pieces of whatever sizes, is the
payload of the first section of its name, whole and without what it was filled up with. -/
theorem extract_newImage {alignment : Nat} {padding : UInt8} {sections : List NewSection}
    (w : Writable alignment padding sections) (path : String) :
    ∃ a, extract path (.file (newImage alignment padding sections)) = .ok a ∧
      ∀ p, ∃ s, sections.find? (fun s => s.name = Text.Utf8.encode p.sectionName) = some s ∧
        ∀ views : Nat → SectionReader.View,
          (∀ i, (views i).file = newImage alignment padding sections) →
          ((a.get p).streamThrough views).readToEnd = .ok s.payload := by
  have table := sectionHeaders_eq_ok_iff.mpr (hasHeaders_newImage w)
  choose header found hheader hfound holds using exists_firstHeader_newImage w
  have inside : AllInside (newImage alignment padding sections).length
      (newHeaders alignment sections) := by
    refine allInside_iff.mpr fun p h hp => ?_
    obtain rfl : header p = h := Option.some.inj ((hheader p).symm.trans hp)
    exact (holds p).inside
  refine ⟨readersOf path header, extract_of_bound table inside hheader, ?_⟩
  intro p
  refine ⟨found p, hfound p, ?_⟩
  intro views same
  rw [get_readersOf, SectionReader.readToEnd_streamThrough_unchanged _ views same,
    SectionHeader.stream_reader (holds p).inside, (holds p).payload, Stream.readToEnd_data]

theorem writable_paddedSections : Writable 4 0xAA paddedSections where
  aligned := by decide
  limited := by decide
  named := by
    have hall : ∀ s ∈ paddedSections, s.name.length ≤ 8 ∧ s.name.getLast? ≠ some 0 := by
      decide +kernel
    exact fun s hs => ⟨(hall s hs).1, (hall s hs).2⟩
  complete := by
    intro p
    cases p with
    | kernel | initrd | cmdline => decide +kernel
  small := by decide +kernel

/-- Looks at the image three bytes at a time. -/
def paddedViews : Nat → SectionReader.View :=
  fun _ => ⟨newImage 4 0xAA paddedSections, 3, by decide⟩

theorem extract_paddedSections : Writable 4 0xAA paddedSections ∧
    ∃ a, extract "boot.efi" (.file (newImage 4 0xAA paddedSections)) = .ok a ∧
      (a.kernel.streamThrough paddedViews).readToEnd = .ok [75, 69, 82, 78] ∧
      (a.initrd.streamThrough paddedViews).readToEnd = .ok [] ∧
      (a.cmdline.streamThrough paddedViews).readToEnd = .ok [114, 111] := by
  obtain ⟨a, ha, hall⟩ := extract_newImage writable_paddedSections "boot.efi"
  have hread (p : Payload) {s : NewSection}
      (hs : paddedSections.find? (fun s => s.name = Text.Utf8.encode p.sectionName) = some s) :
      ((a.get p).streamThrough paddedViews).readToEnd = .ok s.payload := by
    obtain ⟨found, hfound, hpayload⟩ := hall p
    obtain rfl : found = s := Option.some.inj (hfound.symm.trans hs)
    exact hpayload paddedViews fun _ => rfl
  refine ⟨writable_paddedSections, a, ha, ?_, ?_, ?_⟩
  · exact hread .kernel (s := paddedSections[2]) (by decide +kernel)
  · exact hread .initrd (s := paddedSections[3]) (by decide +kernel)
  · exact hread .cmdline (s := paddedSections[1]) (by decide +kernel)

end NextBoot.Image
