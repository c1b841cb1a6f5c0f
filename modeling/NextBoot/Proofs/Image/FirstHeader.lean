import NextBoot.Image.StoredCommandLine
import NextBoot.Proofs.Image.HeaderFields
import NextBoot.Proofs.Outcome

/-! The header that a payload is read from: the first of its name, which has to lie in the file. -/
namespace NextBoot

theorem Payload.sectionName_injective : Function.Injective Payload.sectionName := by
  intro p q h
  cases p <;> cases q <;> first | rfl | exact absurd h (by decide)

namespace Image

open Outcome (bind_eq_ok_iff mapError_eq_ok_iff)

/-- The first header whose name, without the zeros after it, is that of the payload's section. -/
def firstHeader (headers : List SectionHeader) (p : Payload) : Option SectionHeader :=
  headers.find? fun h => h.name = Text.Utf8.encode p.sectionName

theorem SectionHeader.payload?_eq_some_iff {h : SectionHeader} {p : Payload} :
    h.payload? = some p ↔ h.name = Text.Utf8.encode p.sectionName := by
  constructor
  · intro hp
    have he : Text.Utf8.encode p.sectionName = h.name := by simpa using List.find?_some hp
    exact he.symm
  · intro hn
    cases hq : h.payload? with
    | none =>
      have hnone := List.find?_eq_none.mp hq p (by cases p <;> decide)
      simp [hn] at hnone
    | some q =>
      have he : Text.Utf8.encode q.sectionName = h.name := by simpa using List.find?_some hq
      rw [hn] at he
      rw [Payload.sectionName_injective (Text.Utf8.encode_injective he)]

theorem firstHeader_eq (headers : List SectionHeader) (p : Payload) :
    firstHeader headers p = headers.find? fun h => h.payload? = some p := by
  simp only [firstHeader, SectionHeader.payload?_eq_some_iff]

theorem firstHeader_cons (h : SectionHeader) (rest : List SectionHeader) (p : Payload) :
    firstHeader (h :: rest) p = if h.payload? = some p then some h else firstHeader rest p := by
  rw [firstHeader_eq, firstHeader_eq, List.find?_cons]
  by_cases hp : h.payload? = some p <;> simp [hp]

theorem SectionHeader.checkBounds_eq_ok_iff {h : SectionHeader} {p : Payload} {fileSize : Nat} :
    h.checkBounds p fileSize = .ok () ↔ h.finish ≤ fileSize := by
  unfold checkBounds
  split <;> simp <;> omega

/-- What binding the headers to payloads that are not bound yet has to give. -/
structure Binds (fileSize : Nat) (found : Bindings) (headers : List SectionHeader)
    (bound : Bindings) : Prop where
  first : ∀ p, bound p = (found p).or (firstHeader headers p)
  inBounds : ∀ p h, found p = none → firstHeader headers p = some h → h.finish ≤ fileSize

section Cons
variable {fileSize : Nat} {found bound : Bindings} {h : SectionHeader} {rest : List SectionHeader}

/-- A header is passed over where its payload is bound, or where it has none. -/
theorem binds_cons_of_passed (hp : ∀ p, h.payload? = some p → (found p).isSome) :
    Binds fileSize found (h :: rest) bound ↔ Binds fileSize found rest bound := by
  have hfirst (p : Payload) :
      (found p).or (firstHeader (h :: rest) p) = (found p).or (firstHeader rest p) := by
    rw [firstHeader_cons]
    split
    next he =>
      obtain ⟨x, hx⟩ := Option.isSome_iff_exists.mp (hp p he)
      simp [hx]
    next => rfl
  have hsame (p : Payload) (hn : found p = none) : firstHeader (h :: rest) p = firstHeader rest p := by
    simpa [hn] using hfirst p
  constructor
  · rintro ⟨h₁, h₂⟩
    exact ⟨fun p => (h₁ p).trans (hfirst p),
      fun p x hn hx => h₂ p x hn ((hsame p hn).trans hx)⟩
  · rintro ⟨h₁, h₂⟩
    exact ⟨fun p => (h₁ p).trans (hfirst p).symm,
      fun p x hn hx => h₂ p x hn ((hsame p hn).symm.trans hx)⟩

/-- The first header of a payload that is not bound yet is bound to it. -/
theorem binds_cons_of_first {q : Payload} (hq : h.payload? = some q) (hn : found q = none) :
    Binds fileSize found (h :: rest) bound ↔
      h.finish ≤ fileSize ∧
        Binds fileSize (fun p => if p = q then some h else found p) rest bound := by
  have hcons (p : Payload) :
      firstHeader (h :: rest) p = if p = q then some h else firstHeader rest p := by
    rw [firstHeader_cons, hq]
    by_cases hp : p = q
    · simp [hp]
    · simp [hp, Ne.symm hp]
  have hfirst (p : Payload) : (found p).or (firstHeader (h :: rest) p) =
      (if p = q then some h else found p).or (firstHeader rest p) := by
    rw [hcons]
    by_cases hp : p = q
    · simp [hp, hn]
    · simp [hp]
  constructor
  · rintro ⟨h₁, h₂⟩
    refine ⟨h₂ q h hn (by simp [hcons]), fun p => (h₁ p).trans (hfirst p), ?_⟩
    intro p x hx hf
    by_cases hp : p = q
    · simp [hp] at hx
    · simp only [hp, if_false] at hx
      exact h₂ p x hx (by simpa [hcons, hp] using hf)
  · rintro ⟨hb, h₁, h₂⟩
    refine ⟨fun p => (h₁ p).trans (hfirst p).symm, ?_⟩
    intro p x hx hf
    by_cases hp : p = q
    · obtain rfl : h = x := by simpa [hcons, hp] using hf
      exact hb
    · exact h₂ p x (by simpa [hp] using hx) (by simpa [hcons, hp] using hf)

end Cons

theorem bindHeaders_eq_ok_iff {fileSize : Nat} {found bound : Bindings}
    {headers : List SectionHeader} :
    bindHeaders fileSize found headers = .ok bound ↔ Binds fileSize found headers bound := by
  induction headers generalizing found with
  | nil =>
    simp only [bindHeaders, Except.ok.injEq]
    constructor
    · rintro rfl
      exact ⟨by simp [firstHeader], by simp [firstHeader]⟩
    · intro h
      funext p
      simpa [firstHeader] using (h.first p).symm
  | cons h rest ih =>
    unfold bindHeaders
    split
    next hn => rw [ih, binds_cons_of_passed (by simp [hn])]
    next q hq =>
      split
      next hf =>
        rw [ih, binds_cons_of_passed]
        intro p hp
        rw [hq] at hp
        exact Option.some.inj hp ▸ hf
      next hf =>
        rw [binds_cons_of_first hq (by simpa using hf), ← ih,
          ← SectionHeader.checkBounds_eq_ok_iff (p := q)]
        cases h.checkBounds q fileSize with
        | error e => simp [bind, Except.bind]
        | ok u => simp [bind, Except.bind]

/-- A reader over the whole payload that a header gives. -/
def SectionHeader.reader (h : SectionHeader) (path : String) (p : Payload) : SectionReader :=
  ⟨path, p, h.offset, h.payloadSize, 0, false⟩

theorem Assets.ext_get {a b : Assets} (h : ∀ p, a.get p = b.get p) : a = b := by
  obtain ⟨ak, ai, ac⟩ := a
  obtain ⟨bk, bi, bc⟩ := b
  have hk : ak = bk := h .kernel
  have hi : ai = bi := h .initrd
  have hc : ac = bc := h .cmdline
  rw [hk, hi, hc]

/-- What an image gives to boot from: for each payload a reader where its first header says. -/
theorem Assets.ofFile_eq_ok_iff {path : String} {file : Bytes} {a : Assets} :
    Assets.ofFile path file = .ok a ↔
      ∃ headers, sectionHeaders file = .ok headers ∧
        ∀ p, ∃ h, firstHeader headers p = some h ∧ h.finish ≤ file.length ∧
          a.get p = h.reader path p := by
  simp only [ofFile, bind_eq_ok_iff, mapError_eq_ok_iff, bindHeaders_eq_ok_iff]
  refine exists_congr fun headers => and_congr_right fun _ => ?_
  constructor
  · rintro ⟨found, ⟨hfirst, hbound⟩, ha⟩
    simp only [Option.none_or] at hfirst
    split at ha
    next hk hi hc =>
      obtain rfl := Except.ok.inj ha
      have reads {p : Payload} {h : SectionHeader} (hp : found p = some h) :
          firstHeader headers p = some h ∧ h.finish ≤ file.length := by
        rw [hfirst p] at hp
        exact ⟨hp, hbound p h rfl hp⟩
      intro p
      cases p with
      | kernel => exact ⟨_, (reads hk).1, (reads hk).2, rfl⟩
      | initrd => exact ⟨_, (reads hi).1, (reads hi).2, rfl⟩
      | cmdline => exact ⟨_, (reads hc).1, (reads hc).2, rfl⟩
    next => cases ha
  · intro hall
    obtain ⟨hk, hk₁, hk₂, hk₃⟩ := hall .kernel
    obtain ⟨hi, hi₁, hi₂, hi₃⟩ := hall .initrd
    obtain ⟨hc, hc₁, hc₂, hc₃⟩ := hall .cmdline
    refine ⟨firstHeader headers, ⟨by simp, fun p h _ hp => ?_⟩, ?_⟩
    · obtain ⟨x, hx, hle, -⟩ := hall p
      rw [hx] at hp
      exact Option.some.inj hp ▸ hle
    · rw [hk₁, hi₁, hc₁]
      apply congrArg Except.ok
      apply Assets.ext_get
      intro p
      cases p with
      | kernel => exact hk₃.symm
      | initrd => exact hi₃.symm
      | cmdline => exact hc₃.symm

theorem extract_file (path : String) (file : Bytes) :
    extract path (.file file) = Assets.ofFile path file := rfl

theorem findCommandLine_eq_ok_iff {file : Bytes} {h : SectionHeader} :
    findCommandLine file = .ok h ↔
      ∃ headers, sectionHeaders file = .ok headers ∧
        firstHeader headers .cmdline = some h ∧ h.finish ≤ file.length := by
  simp only [findCommandLine, bind_eq_ok_iff, mapError_eq_ok_iff, ← firstHeader_eq]
  refine exists_congr fun headers => and_congr_right fun _ => ?_
  cases firstHeader headers .cmdline with
  | none => simp [throw, throwThe, MonadExceptOf.throw]
  | some x =>
    simp only [bind_eq_ok_iff, mapError_eq_ok_iff, Option.some.injEq]
    constructor
    · rintro ⟨⟨⟩, hb, hx⟩
      obtain rfl := Except.ok.inj hx
      exact ⟨rfl, SectionHeader.checkBounds_eq_ok_iff.mp hb⟩
    · rintro ⟨rfl, hle⟩
      exact ⟨(), SectionHeader.checkBounds_eq_ok_iff.mpr hle, rfl⟩

section ReadCommandLine
variable {path : String} {file : Bytes}

theorem readCommandLine_of_not_found {e : ImageError} (missing : findCommandLine file = .error e) :
    readCommandLine path (.file file) = .error e := by
  simp only [readCommandLine, openImage, storedCommandLine, missing, Outcome.ok_bind,
    Outcome.error_bind]

theorem readCommandLine_of_found {h : SectionHeader} (found : findCommandLine file = .ok h) :
    readCommandLine path (.file file) =
      .ok (CommandLine.decode (file.slice h.offset h.payloadSize)) := by
  simp only [readCommandLine, openImage, storedCommandLine, found, Outcome.ok_bind]
  rfl

end ReadCommandLine

end Image

end NextBoot
