import Mathlib.Algebra.Ring.Nat
import Mathlib.Order.Bounds.Basic
import NextBoot.Kexec.Layout
import NextBoot.Proofs.Outcome

/-! How much memory segments take, and where. Sizes are rounded up in 64 bits without overflow, and
segments at accepted addresses overlap only where the lower one reaches up to the other. -/
namespace NextBoot.Kexec

/-! ### Whole pages -/

/-- The pages that hold `n` bytes, in numbers of any size. -/
def pagesFor (n : Nat) : Nat := n / pageSize.toNat + if n % pageSize.toNat = 0 then 0 else 1

theorem toNat_pageSize : pageSize.toNat = 4096 := rfl

theorem pagesFor_fits_iff (n : Nat) :
    pagesFor n * pageSize.toNat < 2 ^ 64 ↔ n ≤ 2 ^ 64 - 4096 := by
  unfold pagesFor
  rw [toNat_pageSize]
  split <;> omega

theorem pagesFor_isLeast (n : Nat) :
    IsLeast {m | pageSize.toNat ∣ m ∧ n ≤ m} (pagesFor n * pageSize.toNat) := by
  unfold pagesFor
  rw [toNat_pageSize]
  constructor
  · refine ⟨Nat.dvd_mul_left _ _, ?_⟩
    split <;> omega
  · rintro m ⟨⟨k, rfl⟩, hm⟩
    split <;> omega

theorem pagesFor_lt (n : Nat) : pagesFor n * pageSize.toNat < n + pageSize.toNat := by
  unfold pagesFor
  rw [toNat_pageSize]
  split <;> omega

section Align
variable {m n : UInt64}

/-- Neither the sum nor the product wraps around. -/
theorem toNat_pageAlign (h : n.toNat ≤ 2 ^ 64 - 4096) :
    (pageAlign n).toNat = pagesFor n.toNat * pageSize.toNat := by
  have hfits := (pagesFor_fits_iff n.toNat).mpr h
  have hzero : n % pageSize = 0 ↔ n.toNat % pageSize.toNat = 0 := by
    rw [← UInt64.toNat_inj, UInt64.toNat_mod, UInt64.toNat_zero]
  unfold pageAlign pagesFor at *
  rw [toNat_pageSize] at *
  simp only [UInt64.toNat_mul, UInt64.toNat_add, UInt64.toNat_div, toNat_pageSize, hzero]
  split
  next hmod =>
    rw [if_pos hmod] at hfits
    rw [UInt64.toNat_zero]
    omega
  next hmod =>
    rw [if_neg hmod] at hfits
    rw [UInt64.toNat_one]
    omega

theorem pageAlign_isLeast (h : n.toNat ≤ 2 ^ 64 - 4096) :
    IsLeast {m | pageSize.toNat ∣ m ∧ n.toNat ≤ m} (pageAlign n).toNat := by
  rw [toNat_pageAlign h]
  exact pagesFor_isLeast n.toNat

theorem pageAlign_mono (hmn : m ≤ n) (h : n.toNat ≤ 2 ^ 64 - 4096) : pageAlign m ≤ pageAlign n := by
  have hle : m.toNat ≤ n.toNat := UInt64.le_iff_toNat_le.mp hmn
  obtain ⟨⟨hdvd, hn⟩, -⟩ := pageAlign_isLeast h
  exact UInt64.le_iff_toNat_le.mpr ((pageAlign_isLeast (hle.trans h)).2 ⟨hdvd, hle.trans hn⟩)

/-- A multiple of the page size is its own least multiple. -/
theorem pageAlign_pageAlign (h : n.toNat ≤ 2 ^ 64 - 4096) :
    pageAlign (pageAlign n) = pageAlign n := by
  obtain ⟨hdvd, -⟩ := (pageAlign_isLeast h).1
  have hfits : (pageAlign n).toNat ≤ 2 ^ 64 - 4096 := by
    have hlt := (pageAlign n).toNat_lt
    rw [toNat_pageSize] at hdvd
    omega
  obtain ⟨⟨-, hge⟩, hleast⟩ := pageAlign_isLeast hfits
  exact UInt64.toNat_inj.mp (Nat.le_antisymm (hleast ⟨hdvd, le_refl _⟩) hge)

end Align

/-! ### Accepted layouts -/

namespace Layout

variable {l : Layout} {p q : Payload}

theorem checkAddress_eq_ok_iff : l.checkAddress p = .ok () ↔
    pageSize.toNat ∣ (l.address p).toNat ∧ (l.address p).toNat < addressLimit.toNat := by
  have haligned : l.address p % pageSize = 0 ↔ pageSize.toNat ∣ (l.address p).toNat := by
    rw [Nat.dvd_iff_mod_eq_zero, ← UInt64.toNat_inj, UInt64.toNat_mod, UInt64.toNat_zero]
  rw [← haligned, ← UInt64.lt_iff_toNat_lt]
  unfold checkAddress
  split
  next h => simp [h]
  next h =>
    split
    next hlow => simpa [hlow] using h
    next hhigh => simp [hhigh]

theorem checkDistinct_eq_ok_iff : l.checkDistinct p q = .ok () ↔ l.address p ≠ l.address q := by
  unfold checkDistinct
  split
  next h => simp [h]
  next h => simp [h]

theorem validate_eq_ok_iff : l.validate = .ok () ↔
    (∀ p, pageSize.toNat ∣ (l.address p).toNat ∧ (l.address p).toNat < addressLimit.toNat) ∧
      Function.Injective l.address := by
  unfold validate
  simp only [Outcome.check_bind_eq_ok_iff, checkAddress_eq_ok_iff, checkDistinct_eq_ok_iff]
  constructor
  · rintro ⟨hk, hi, hc, hki, hkc, hic⟩
    constructor
    · intro p
      cases p with
      | kernel => exact hk
      | initrd => exact hi
      | cmdline => exact hc
    · intro p q h
      by_contra hne
      cases p <;> cases q <;> simp_all
  · rintro ⟨hplace, hinj⟩
    have hne {p q : Payload} (h : p ≠ q) : l.address p ≠ l.address q := hinj.ne h
    exact ⟨hplace _, hplace _, hplace _, hne (by decide), hne (by decide), hne (by decide)⟩

end Layout

/-! ### Memory taken by segments -/

namespace Segment

/-- The address belongs to the memory that is reserved. -/
def Covers (s : Segment) (a : Nat) : Prop :=
  s.address.toNat ≤ a ∧ a < s.address.toNat + s.reserved.toNat

def Overlap (s t : Segment) : Prop := ∃ a, s.Covers a ∧ t.Covers a

/-- Whole pages, as few as hold the content, and one where there is none. -/
structure Sized (s : Segment) : Prop where
  pos : 0 < s.reserved.toNat
  pages : 4096 ∣ s.reserved.toNat
  room : s.content.length ≤ s.reserved.toNat
  spare : if s.content = [] then s.reserved.toNat = 4096
    else s.reserved.toNat < s.content.length + 4096

variable {s t : Segment}

theorem overlap_comm : s.Overlap t ↔ t.Overlap s := by
  unfold Overlap
  simp only [and_comm]

/-- If anything is shared, then the first byte of the upper one is. -/
theorem overlap_iff (low : s.address ≤ t.address) (room : 0 < t.reserved.toNat) :
    s.Overlap t ↔ t.address.toNat - s.address.toNat < s.reserved.toNat := by
  have hle := UInt64.le_iff_toNat_le.mp low
  constructor
  · rintro ⟨a, ⟨-, hs⟩, ht, -⟩
    omega
  · intro h
    exact ⟨t.address.toNat, ⟨hle, by omega⟩, le_refl _, by omega⟩

section Place
variable {content : Bytes} (address : UInt64)

theorem reserved_place (h : content.length < 2 ^ 63) :
    (place content address).reserved.toNat = pagesFor (max content.length 1) * pageSize.toNat := by
  have hsize : (UInt64.ofNat (max content.length 1)).toNat = max content.length 1 := by
    rw [UInt64.toNat_ofNat', Nat.mod_eq_of_lt (by omega)]
  show (pageAlign (UInt64.ofNat (max content.length 1))).toNat = _
  rw [toNat_pageAlign (by omega), hsize]

theorem reserved_place_isLeast (h : content.length < 2 ^ 63) :
    IsLeast {m | pageSize.toNat ∣ m ∧ max content.length 1 ≤ m}
      (place content address).reserved.toNat := by
  rw [reserved_place address h]
  exact pagesFor_isLeast _

theorem reserved_place_le (h : content.length ≤ pageSize.toNat) :
    (place content address).reserved.toNat ≤ pageSize.toNat := by
  have hone : max content.length 1 ≤ pageSize.toNat := max_le h (by decide)
  have hlong : content.length < 2 ^ 63 := h.trans_lt (by decide)
  exact (reserved_place_isLeast address hlong).2 ⟨Nat.dvd_refl _, hone⟩

theorem sized_place (h : content.length < 2 ^ 63) : (place content address).Sized := by
  obtain ⟨⟨hpages, hroom⟩, -⟩ := reserved_place_isLeast address h
  have hpos : 0 < (place content address).reserved.toNat := by omega
  refine ⟨hpos, hpages, (Nat.le_max_left _ _).trans hroom, ?_⟩
  split
  next hnil =>
    have hnone : content = [] := hnil
    subst hnone
    exact Nat.le_antisymm (reserved_place_le address (by decide)) (Nat.le_of_dvd hpos hpages)
  next hne =>
    have hlength : 1 ≤ content.length := List.length_pos_iff.mpr hne
    rw [reserved_place address h, Nat.max_eq_left hlength]
    exact pagesFor_lt content.length

end Place

end Segment

/-- What the segments of a layout are, for the contents that they are made from. -/
structure WellPlaced (l : Layout) (content : Payload → Bytes) (segments : List Segment) : Prop where
  order : segments.map (fun s => (s.content, s.address)) =
    [(content .kernel, l.kernel), (content .initrd, l.initrd), (content .cmdline, l.cmdline)]
  sized : ∀ s ∈ segments, s.Sized
  bounded : ∀ s ∈ segments, s.address.toNat + s.reserved.toNat < 2 ^ 64
  distinct : segments.Pairwise fun s t => s.address ≠ t.address
  overlap : ∀ s ∈ segments, ∀ t ∈ segments, s.address < t.address →
    (s.Overlap t ↔ t.address.toNat - s.address.toNat < s.reserved.toNat)
  apart : segments.Pairwise fun s t =>
    s.content.length ≤ 4096 → t.content.length ≤ 4096 → ¬s.Overlap t

section Placed
variable {l : Layout} {content : Payload → Bytes}

theorem mem_segments_iff {s : Segment} :
    s ∈ Payload.all.map (fun p => Segment.place (content p) (l.address p)) ↔
      ∃ p, Segment.place (content p) (l.address p) = s := by
  rw [List.mem_map]
  constructor
  · rintro ⟨p, -, rfl⟩
    exact ⟨p, rfl⟩
  · rintro ⟨p, rfl⟩
    exact ⟨p, by cases p <;> decide, rfl⟩

/-- A size that is not above `2 ^ 63` by more than a page, at an address below 4 GiB. -/
theorem end_place_lt (accepted : l.validate = .ok ()) {p : Payload}
    (short : (content p).length < 2 ^ 63) :
    (l.address p).toNat + (Segment.place (content p) (l.address p)).reserved.toNat < 2 ^ 64 := by
  have hlow : (l.address p).toNat < 2 ^ 32 := ((Layout.validate_eq_ok_iff.mp accepted).1 p).2
  have hsize := pagesFor_lt (max (content p).length 1)
  rw [Segment.reserved_place _ short]
  rw [toNat_pageSize] at *
  omega

/-- Different addresses of an accepted layout are a page apart, so a lower segment of one page ends
before the other begins. -/
theorem not_overlap_of_small (accepted : l.validate = .ok ()) {p q : Payload}
    (low : l.address p < l.address q) (small : (content p).length ≤ pageSize.toNat)
    (short : (content q).length < 2 ^ 63) :
    ¬(Segment.place (content p) (l.address p)).Overlap
      (Segment.place (content q) (l.address q)) := by
  rw [Segment.overlap_iff (UInt64.le_of_lt low) (Segment.sized_place (l.address q) short).pos]
  have hone := Segment.reserved_place_le (l.address p) small
  have hlow := UInt64.lt_iff_toNat_lt.mp low
  obtain ⟨hplace, -⟩ := Layout.validate_eq_ok_iff.mp accepted
  have hapart := Nat.le_of_dvd (by omega) (Nat.dvd_sub (hplace q).1 (hplace p).1)
  show ¬(l.address q).toNat - (l.address p).toNat < _
  omega

theorem wellPlaced_segments (accepted : l.validate = .ok ())
    (short : ∀ p, (content p).length < 2 ^ 63) :
    WellPlaced l content (l.segments (content .kernel) (content .initrd) (content .cmdline)) := by
  obtain ⟨-, hinj⟩ := Layout.validate_eq_ok_iff.mp accepted
  have hall : l.segments (content .kernel) (content .initrd) (content .cmdline) =
      Payload.all.map fun p => Segment.place (content p) (l.address p) := rfl
  have hnodup : Payload.all.Pairwise (· ≠ ·) := by decide
  rw [hall]
  refine ⟨rfl, ?_, ?_, ?_, ?_, ?_⟩
  · intro s hs
    obtain ⟨p, rfl⟩ := mem_segments_iff.mp hs
    exact Segment.sized_place (l.address p) (short p)
  · intro s hs
    obtain ⟨p, rfl⟩ := mem_segments_iff.mp hs
    exact end_place_lt accepted (short p)
  · rw [List.pairwise_map]
    exact hnodup.imp fun hne => hinj.ne hne
  · intro s hs t ht low
    obtain ⟨q, rfl⟩ := mem_segments_iff.mp ht
    exact Segment.overlap_iff (UInt64.le_of_lt low) (Segment.sized_place _ (short q)).pos
  · rw [List.pairwise_map]
    refine hnodup.imp ?_
    intro p q hne hp hq
    rcases UInt64.lt_or_lt_of_ne (hinj.ne hne) with low | low
    · exact not_overlap_of_small accepted low hp (short q)
    · rw [Segment.overlap_comm]
      exact not_overlap_of_small accepted low hq (short p)

end Placed

/-- Rounding up to whole pages, the addresses that are accepted, and the segments that an accepted
layout gives: sizes and ends fit in 64 bits, and small segments never overlap. -/
theorem placement_spec :
    (∀ n : UInt64, (pagesFor n.toNat * 4096 < 2 ^ 64 ↔ n.toNat ≤ 2 ^ 64 - 4096) ∧
      (n.toNat ≤ 2 ^ 64 - 4096 →
        (pageAlign n).toNat = pagesFor n.toNat * 4096 ∧
        IsLeast {m | 4096 ∣ m ∧ n.toNat ≤ m} (pageAlign n).toNat ∧
        (∀ m ≤ n, pageAlign m ≤ pageAlign n) ∧ pageAlign (pageAlign n) = pageAlign n)) ∧
    (∀ l : Layout, l.validate = .ok () ↔
      (∀ p, 4096 ∣ (l.address p).toNat ∧ (l.address p).toNat < 2 ^ 32) ∧
        Function.Injective l.address) ∧
    ∀ (l : Layout) (content : Payload → Bytes), l.validate = .ok () →
      (∀ p, (content p).length < 2 ^ 63) →
        WellPlaced l content (l.segments (content .kernel) (content .initrd) (content .cmdline)) := by
  refine ⟨?_, fun _ => Layout.validate_eq_ok_iff,
    fun _ _ accepted short => wellPlaced_segments accepted short⟩
  intro n
  refine ⟨pagesFor_fits_iff n.toNat, fun h => ?_⟩
  exact ⟨toNat_pageAlign h, pageAlign_isLeast h, fun _ hmn => pageAlign_mono hmn h,
    pageAlign_pageAlign h⟩

/-- The addresses that are used where the settings give none. -/
example : (Layout.validate {}) = .ok () := by decide

end NextBoot.Kexec
