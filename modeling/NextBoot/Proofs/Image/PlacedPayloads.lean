import NextBoot.Proofs.Image.FirstHeader

/-! Where a section table places the payloads, in the fields of its headers: the label, the two sizes
and the offset. -/
namespace NextBoot

theorem Payload.getLast?_sectionName_ne (p : Payload) :
    (Text.Utf8.encode p.sectionName).getLast? ≠ some 0 := by
  cases p <;> decide +kernel

namespace Image

namespace SectionHeader

/-- The label is the name, with zeros after it up to eight bytes. -/
def Bears (h : SectionHeader) (name : String) : Prop :=
  h.label.toList = Text.Utf8.encode name ++ List.replicate (8 - (Text.Utf8.encode name).length) 0

instance (h : SectionHeader) (name : String) : Decidable (h.Bears name) :=
  inferInstanceAs (Decidable (_ = _))

/-- The content starts at the offset of the raw data. Its size is the virtual size, or the raw size
where that is less or where no virtual size is given. -/
structure Spans (h : SectionHeader) (start size : Nat) : Prop where
  starts : start = h.rawOffset.toNat
  unsized : h.virtualSize = 0 → size = h.rawSize.toNat
  sized : h.virtualSize ≠ 0 → size = min h.virtualSize.toNat h.rawSize.toNat

section
variable {h : SectionHeader}

/-- A name that does not end in a zero is what is left of the label without its zeros. -/
theorem bears_iff {name : String} (ended : (Text.Utf8.encode name).getLast? ≠ some 0) :
    h.Bears name ↔ h.name = Text.Utf8.encode name := by
  constructor
  · intro label
    rw [SectionHeader.name, label, Bytes.dropTrailingZeros_append_replicate,
      Bytes.dropTrailingZeros_of_getLast?_ne ended]
  · intro hname
    obtain ⟨n, label⟩ := Bytes.exists_eq_dropTrailingZeros_append h.label.toList
    have hdropped : Bytes.dropTrailingZeros h.label.toList = Text.Utf8.encode name := hname
    rw [hdropped] at label
    have hlength : 8 = (Text.Utf8.encode name).length + n := by
      rw [← h.label.length_toList, label, List.length_append, List.length_replicate]
    rw [Bears, label, hlength, Nat.add_sub_cancel_left]

theorem bears_sectionName_iff {p : Payload} :
    h.Bears p.sectionName ↔ h.name = Text.Utf8.encode p.sectionName :=
  bears_iff p.getLast?_sectionName_ne

theorem spans_iff {start size : Nat} :
    h.Spans start size ↔ h.offset = start ∧ h.payloadSize = size := by
  constructor
  · rintro ⟨starts, unsized, sized⟩
    refine ⟨starts.symm, ?_⟩
    unfold payloadSize
    split
    next hz => exact (unsized hz).symm
    next hz => exact (sized hz).symm
  · rintro ⟨rfl, rfl⟩
    exact ⟨rfl, fun hz => if_pos hz, fun hz => if_neg hz⟩

end

end SectionHeader

/-- The table places a payload at these bytes: they are what the first header of all spans that bears
the name of its section. -/
def Places (headers : List SectionHeader) (p : Payload) (start size : Nat) : Prop :=
  ∃ before h after, headers = before ++ h :: after ∧ h.Bears p.sectionName ∧
    (∀ x ∈ before, ¬x.Bears p.sectionName) ∧ h.Spans start size

section
variable {headers : List SectionHeader} {p : Payload}

theorem firstHeader_eq_none_iff :
    firstHeader headers p = none ↔ ∀ h ∈ headers, ¬h.Bears p.sectionName := by
  simp only [firstHeader, List.find?_eq_none, decide_eq_true_eq,
    SectionHeader.bears_sectionName_iff]

theorem firstHeader_eq_some_iff {h : SectionHeader} :
    firstHeader headers p = some h ↔ ∃ before after, headers = before ++ h :: after ∧
      h.Bears p.sectionName ∧ ∀ x ∈ before, ¬x.Bears p.sectionName := by
  simp only [firstHeader, List.find?_eq_some_iff_append, decide_eq_true_eq, Bool.not_eq_true',
    decide_eq_false_iff_not, SectionHeader.bears_sectionName_iff]
  constructor
  · rintro ⟨hname, before, after, hsplit, hnone⟩
    exact ⟨before, after, hsplit, hname, hnone⟩
  · rintro ⟨before, after, hsplit, hname, hnone⟩
    exact ⟨hname, before, after, hsplit, hnone⟩

theorem places_iff {start size : Nat} :
    Places headers p start size ↔
      ∃ h, firstHeader headers p = some h ∧ h.offset = start ∧ h.payloadSize = size := by
  simp only [firstHeader_eq_some_iff, ← SectionHeader.spans_iff]
  constructor
  · rintro ⟨before, h, after, hsplit, hbears, hnone, hspans⟩
    exact ⟨h, ⟨before, after, hsplit, hbears, hnone⟩, hspans⟩
  · rintro ⟨h, ⟨before, after, hsplit, hbears, hnone⟩, hspans⟩
    exact ⟨before, h, after, hsplit, hbears, hnone, hspans⟩

theorem places_of_firstHeader {h : SectionHeader} (first : firstHeader headers p = some h) :
    Places headers p h.offset h.payloadSize :=
  places_iff.mpr ⟨h, first, rfl, rfl⟩

theorem Places.unique {start size start' size' : Nat} (placed : Places headers p start size)
    (placed' : Places headers p start' size') : start = start' ∧ size = size' := by
  obtain ⟨h, first, rfl, rfl⟩ := places_iff.mp placed
  obtain ⟨h', first', rfl, rfl⟩ := places_iff.mp placed'
  obtain rfl : h = h' := Option.some.inj (first.symm.trans first')
  exact ⟨rfl, rfl⟩

end

end Image

end NextBoot
