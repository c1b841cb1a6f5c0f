import Mathlib.Logic.Basic
import Mathlib.Tactic.SplitIfs
import NextBoot.Image.SectionTable
import NextBoot.Proofs.ByteWindow

/-! Where the fields of the headers lie, when a section table can be read, and which bytes of an
image it depends on. -/
namespace NextBoot.Image

/-- The byte at a place, zero past the end. -/
def byteAt (file : Bytes) (i : Nat) : UInt8 := file.getD i 0

def word16At (file : Bytes) (i : Nat) : Nat :=
  (Bytes.word16 (byteAt file i) (byteAt file (i + 1))).toNat

def word32At (file : Bytes) (i : Nat) : Nat :=
  (Bytes.word32 (byteAt file i) (byteAt file (i + 1)) (byteAt file (i + 2))
    (byteAt file (i + 3))).toNat

/-- The last field of the DOS header. -/
def signatureOffset (file : Bytes) : Nat := word32At file 60

def sectionCount (file : Bytes) : Nat := word16At file (signatureOffset file + 6)

def optionalSize (file : Bytes) : Nat := word16At file (signatureOffset file + 20)

def tableOffset (file : Bytes) : Nat := signatureOffset file + peHeaderSize + optionalSize file

def tableEnd (file : Bytes) : Nat := tableOffset file + SectionHeader.size * sectionCount file

/-- The places of the DOS header, and those from the signature to the end of the section table. -/
def headerPlaces (file : Bytes) (i : Nat) : Prop :=
  i < dosHeaderSize ∨ signatureOffset file ≤ i ∧ i < tableEnd file

def HasDosSignature (file : Bytes) : Prop := byteAt file 0 = 0x4D ∧ byteAt file 1 = 0x5A

def HasPeSignature (file : Bytes) : Prop :=
  byteAt file (signatureOffset file) = 0x50 ∧ byteAt file (signatureOffset file + 1) = 0x45 ∧
    byteAt file (signatureOffset file + 2) = 0 ∧ byteAt file (signatureOffset file + 3) = 0

instance (file : Bytes) : Decidable (HasDosSignature file) := inferInstanceAs (Decidable (_ ∧ _))

instance (file : Bytes) : Decidable (HasPeSignature file) := inferInstanceAs (Decidable (_ ∧ _))

theorem byteAt_of_readAt? {file : Bytes} {offset size : Nat} {v : Vector UInt8 size}
    (h : file.readAt? offset size = some v) (i : Nat) (hi : i < size) :
    byteAt file (offset + i) = v[i] := Bytes.getD_of_readAt? h i hi

/-- The checks in their order, each on the fields that it looks at. -/
theorem sectionHeaders_eq (file : Bytes) :
    sectionHeaders file =
      if file.readAt? 0 dosHeaderSize = none then .error (.truncated .dosHeader)
      else if ¬HasDosSignature file then .error .noDosSignature
      else if file.readAt? (signatureOffset file) peHeaderSize = none then
        .error (.truncated .peHeader)
      else if ¬HasPeSignature file then .error (.noPeSignature (signatureOffset file))
      else if sectionLimit < sectionCount file then .error (.tooManySections (sectionCount file))
      else
        (checkOptionalHeader file (signatureOffset file + peHeaderSize) (optionalSize file)).bind
          fun () => match readHeaders? file (tableOffset file) (sectionCount file) with
            | none => .error (.truncated .sectionTable)
            | some headers => .ok headers := by
  unfold sectionHeaders
  cases hd : file.readAt? 0 dosHeaderSize with
  | none => rfl
  | some dos =>
    have dosByte (i : Nat) (hi : i < dosHeaderSize) : dos[i] = byteAt file i := by
      simpa using (byteAt_of_readAt? hd i hi).symm
    have ho : (Bytes.word32 dos[60] dos[61] dos[62] dos[63]).toNat = signatureOffset file := by
      simp only [dosByte, signatureOffset, word32At]
    have hs : ¬(dos[0] = 0x4D ∧ dos[1] = 0x5A) ↔ ¬HasDosSignature file := by
      simp only [dosByte, HasDosSignature]
    simp only [ho, reduceCtorEq, if_false]
    refine if_congr hs rfl ?_
    cases hp : file.readAt? (signatureOffset file) peHeaderSize with
    | none => rfl
    | some pe =>
      have peByte (i : Nat) (hi : i < peHeaderSize) :
          pe[i] = byteAt file (signatureOffset file + i) := (byteAt_of_readAt? hp i hi).symm
      simp only [peByte, reduceCtorEq, if_false, Nat.add_zero]
      rfl

/-- The grammar of the headers. -/
structure HasHeaders (file : Bytes) (headers : List SectionHeader) : Prop where
  dos : file.readAt? 0 dosHeaderSize ≠ none
  dosSignature : HasDosSignature file
  pe : file.readAt? (signatureOffset file) peHeaderSize ≠ none
  peSignature : HasPeSignature file
  count : sectionCount file ≤ sectionLimit
  optional : checkOptionalHeader file (signatureOffset file + peHeaderSize) (optionalSize file) =
    .ok ()
  table : readHeaders? file (tableOffset file) (sectionCount file) = some headers

/-- A section table can be read exactly where the grammar holds. -/
theorem sectionHeaders_eq_ok_iff {file : Bytes} {headers : List SectionHeader} :
    sectionHeaders file = .ok headers ↔ HasHeaders file headers := by
  rw [sectionHeaders_eq]
  constructor
  · intro h
    split_ifs at h with hd hs hp hps hc
    cases ho : checkOptionalHeader file (signatureOffset file + peHeaderSize) (optionalSize file) with
    | error e => simp [ho, Except.bind] at h
    | ok u =>
      cases ht : readHeaders? file (tableOffset file) (sectionCount file) with
      | none => simp [ho, ht, Except.bind] at h
      | some found =>
        obtain rfl : found = headers := by simpa [ho, ht, Except.bind] using h
        exact ⟨hd, hs, hp, hps, by omega, ho, ht⟩
  · rintro ⟨hd, hs, hp, hps, hc, ho, ht⟩
    rw [if_neg hd, if_neg (not_not.mpr hs), if_neg hp, if_neg (not_not.mpr hps),
      if_neg (by omega), ho, ht]
    rfl

/-! ### Bytes that the table does not depend on -/

open Bytes (AgreeOn window)

theorem byteAt_congr {f g : Bytes} {places : Nat → Prop} (h : AgreeOn places f g) {i : Nat}
    (hi : places i) : byteAt f i = byteAt g i := by
  rw [byteAt, byteAt, List.getD_eq_getElem?_getD, List.getD_eq_getElem?_getD, h i hi]

theorem readHeaders?_congr {f g : Bytes} {offset count : Nat}
    (h : AgreeOn (window offset (SectionHeader.size * count)) f g) :
    readHeaders? f offset count = readHeaders? g offset count := by
  induction count generalizing offset with
  | zero => rfl
  | succ count ih =>
    have hfirst : AgreeOn (window offset SectionHeader.size) f g :=
      h.mono fun i hi => ⟨hi.1, by have := hi.2; simp only [Nat.mul_succ]; omega⟩
    have hrest : AgreeOn (window (offset + SectionHeader.size) (SectionHeader.size * count)) f g :=
      h.mono fun i hi => ⟨by have := hi.1; omega, by have := hi.2; simp only [Nat.mul_succ]; omega⟩
    simp only [readHeaders?, hfirst.readAt?_eq, ih hrest]

theorem checkOptionalHeader_congr {f g : Bytes} {offset size : Nat}
    (h : AgreeOn (window offset size) f g) :
    checkOptionalHeader f offset size = checkOptionalHeader g offset size := by
  unfold checkOptionalHeader
  split
  next => rfl
  next hs =>
    have hmagic : AgreeOn (window offset 2) f g :=
      h.mono fun i hi => ⟨hi.1, by have := hi.2; omega⟩
    rw [hmagic.readAt?_eq]

/-- The same bytes in the DOS header, and in the PE header that it leads to. -/
structure SameStart (f g : Bytes) : Prop where
  dos : ∀ i < dosHeaderSize, byteAt f i = byteAt g i
  pe : ∀ i < peHeaderSize, byteAt f (signatureOffset f + i) = byteAt g (signatureOffset f + i)

namespace SameStart

variable {f g : Bytes}

theorem signatureOffset_eq (h : SameStart f g) : signatureOffset f = signatureOffset g := by
  simp only [signatureOffset, word32At, h.dos 60 (by decide), h.dos 61 (by decide),
    h.dos 62 (by decide), h.dos 63 (by decide)]

theorem peByte (h : SameStart f g) (i : Nat) (hi : i < peHeaderSize) :
    byteAt f (signatureOffset f + i) = byteAt g (signatureOffset g + i) := by
  rw [← h.signatureOffset_eq]
  exact h.pe i hi

theorem sectionCount_eq (h : SameStart f g) : sectionCount f = sectionCount g := by
  have h6 := h.peByte 6 (by decide)
  have h7 := h.peByte 7 (by decide)
  simp only [sectionCount, word16At, Nat.add_assoc, Nat.reduceAdd, h6, h7]

theorem optionalSize_eq (h : SameStart f g) : optionalSize f = optionalSize g := by
  have h20 := h.peByte 20 (by decide)
  have h21 := h.peByte 21 (by decide)
  simp only [optionalSize, word16At, Nat.add_assoc, Nat.reduceAdd, h20, h21]

theorem tableOffset_eq (h : SameStart f g) : tableOffset f = tableOffset g := by
  simp only [tableOffset, h.signatureOffset_eq, h.optionalSize_eq]

theorem headerPlaces_eq (h : SameStart f g) : headerPlaces f = headerPlaces g := by
  funext i
  simp only [headerPlaces, tableEnd, h.signatureOffset_eq, h.tableOffset_eq, h.sectionCount_eq]

theorem hasDosSignature (h : SameStart f g) (hf : HasDosSignature f) : HasDosSignature g := by
  simpa only [HasDosSignature, h.dos 0 (by decide), h.dos 1 (by decide)] using hf

theorem hasPeSignature (h : SameStart f g) (hf : HasPeSignature f) : HasPeSignature g := by
  have h0 := h.peByte 0 (by decide)
  rw [Nat.add_zero, Nat.add_zero] at h0
  simpa only [HasPeSignature, h0, h.peByte 1 (by decide), h.peByte 2 (by decide),
    h.peByte 3 (by decide)] using hf

end SameStart

/-- Where the headers start the same, the grammar holds if all of them can be read. -/
theorem HasHeaders.of_reads {f g : Bytes} {headers : List SectionHeader} (hf : HasHeaders f headers)
    (start : SameStart f g) (dos : g.readAt? 0 dosHeaderSize ≠ none)
    (pe : g.readAt? (signatureOffset f) peHeaderSize ≠ none)
    (optional : checkOptionalHeader g (signatureOffset f + peHeaderSize) (optionalSize f) = .ok ())
    (table : readHeaders? g (tableOffset f) (sectionCount f) = some headers) :
    HasHeaders g headers := by
  rw [start.signatureOffset_eq] at pe optional
  rw [start.optionalSize_eq] at optional
  rw [start.tableOffset_eq, start.sectionCount_eq] at table
  refine ⟨dos, start.hasDosSignature hf.dosSignature, pe, start.hasPeSignature hf.peSignature, ?_,
    optional, table⟩
  rw [← start.sectionCount_eq]
  exact hf.count

theorem signature_le_tableEnd (f : Bytes) : signatureOffset f + peHeaderSize ≤ tableEnd f := by
  simp only [tableEnd, tableOffset]
  omega

theorem sameStart_of_agreeOn {f g : Bytes} (h : AgreeOn (headerPlaces f) f g) : SameStart f g := by
  have hend := signature_le_tableEnd f
  exact ⟨fun i hi => byteAt_congr h (Or.inl hi),
    fun i hi => byteAt_congr h (Or.inr ⟨by omega, by omega⟩)⟩

/-- Files that agree on their headers have the same section table. -/
theorem HasHeaders.congr {f g : Bytes} {headers : List SectionHeader} (hf : HasHeaders f headers)
    (h : AgreeOn (headerPlaces f) f g) : HasHeaders g headers := by
  have hend := signature_le_tableEnd f
  have hdos : AgreeOn (window 0 dosHeaderSize) f g :=
    h.mono fun i hi => Or.inl (by have := hi.2; omega)
  have hpe : AgreeOn (window (signatureOffset f) peHeaderSize) f g :=
    h.mono fun i hi => Or.inr ⟨hi.1, by have := hi.2; omega⟩
  have hoptional :
      AgreeOn (window (signatureOffset f + peHeaderSize) (optionalSize f)) f g := by
    refine h.mono fun i hi => Or.inr ⟨by have := hi.1; omega, ?_⟩
    have := hi.2
    simp only [tableEnd, tableOffset]
    omega
  have htable : AgreeOn (window (tableOffset f) (SectionHeader.size * sectionCount f)) f g := by
    refine h.mono fun i hi => Or.inr ⟨?_, hi.2⟩
    have := hi.1
    simp only [tableOffset] at this
    omega
  apply hf.of_reads (sameStart_of_agreeOn h)
  · rw [← hdos.readAt?_eq]
    exact hf.dos
  · rw [← hpe.readAt?_eq]
    exact hf.pe
  · rw [← checkOptionalHeader_congr hoptional]
    exact hf.optional
  · rw [← readHeaders?_congr htable]
    exact hf.table

end NextBoot.Image
