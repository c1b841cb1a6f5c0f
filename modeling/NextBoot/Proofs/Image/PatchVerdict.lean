import NextBoot.Proofs.Image.ExtractVerdict
import NextBoot.Proofs.Image.PatchRun

/-! What a patch of the stored command line answers for any image at all, and which bytes it touches.
The section may overlap others, the headers even: the bytes outside it stay as they are all the same,
and a patch that is refused changes nothing. -/
namespace NextBoot.Image

open Bytes (window)

/-- The header is the first of the command line in the section table of the file. -/
def CommandLineAt (file : Bytes) (h : SectionHeader) : Prop :=
  ∃ headers, sectionHeaders file = .ok headers ∧ firstHeader headers .cmdline = some h

theorem CommandLineAt.unique {file : Bytes} {h h' : SectionHeader} (at_h : CommandLineAt file h)
    (at_h' : CommandLineAt file h') : h = h' := by
  obtain ⟨headers, table, first⟩ := at_h
  obtain ⟨headers', table', first'⟩ := at_h'
  obtain rfl : headers = headers' := Except.ok.inj (table.symm.trans table')
  exact Option.some.inj (first.symm.trans first')

/-! ### Finding the section -/

section Find
variable {file : Bytes} {headers : List SectionHeader} {h : SectionHeader}

theorem findCommandLine_of_unreadable {e : FormatError} (table : sectionHeaders file = .error e) :
    findCommandLine file = .error (.format e) := by
  simp only [findCommandLine, table, Outcome.mapError_error, Outcome.error_bind]

theorem findCommandLine_of_absent (table : sectionHeaders file = .ok headers)
    (absent : firstHeader headers .cmdline = none) :
    findCommandLine file = .error (.missingSections [.cmdline]) := by
  rw [firstHeader_eq] at absent
  simp only [findCommandLine, table, Outcome.mapError_ok, Outcome.ok_bind, absent]
  rfl

theorem findCommandLine_of_outside (found : CommandLineAt file h)
    (outside : file.length < h.finish) :
    findCommandLine file = .error (.format (.outOfBounds .cmdline h.finish file.length)) := by
  obtain ⟨headers, table, first⟩ := found
  rw [firstHeader_eq] at first
  simp only [findCommandLine, table, Outcome.mapError_ok, Outcome.ok_bind, first,
    SectionHeader.checkBounds, if_pos outside]
  rfl

theorem findCommandLine_of_inside (found : CommandLineAt file h) (inside : h.finish ≤ file.length) :
    findCommandLine file = .ok h := by
  obtain ⟨headers, table, first⟩ := found
  exact findCommandLine_eq_ok_iff.mpr ⟨headers, table, first, inside⟩

end Find

/-! ### The ways in which a patch ends -/

/-- What a patch answers and what is there afterwards. -/
inductive PatchEnd (file : Bytes) (value : String) : Except ImageError Unit × PathState → Prop where
  | unreadable {e : FormatError} (table : sectionHeaders file = .error e) :
    PatchEnd file value (.error (.format e), .file file)
  | absent {headers : List SectionHeader} (table : sectionHeaders file = .ok headers)
    (first : firstHeader headers .cmdline = none) :
    PatchEnd file value (.error (.missingSections [.cmdline]), .file file)
  | outside {h : SectionHeader} (found : CommandLineAt file h) (out : file.length < h.finish) :
    PatchEnd file value
      (.error (.format (.outOfBounds .cmdline h.finish file.length)), .file file)
  | tooLarge {h : SectionHeader} (found : CommandLineAt file h) (inside : h.finish ≤ file.length)
    (large : ¬h.Fits value) :
    PatchEnd file value
      (.error (.payloadTooLarge (Text.Utf8.encode value).length h.payloadSize), .file file)
  | written {h : SectionHeader} (found : CommandLineAt file h) (inside : h.finish ≤ file.length)
    (fits : h.Fits value) :
    PatchEnd file value (.ok (), .file (file.writeAt h.offset (h.stored value)))

theorem patched_of_not_found {file : Bytes} {e : ImageError}
    (missing : findCommandLine file = .error e) (value : String) :
    patched file value = .error e := by
  simp only [patched, missing, Outcome.error_bind]

theorem patchEnd_patchCommandLine (path : String) (file : Bytes) (value : String) :
    PatchEnd file value (patchCommandLine path (.file file) value).value := by
  cases table : sectionHeaders file with
  | error e =>
    have missing := findCommandLine_of_unreadable table
    rw [patchCommandLine_of_refused (patched_of_not_found missing value)]
    exact .unreadable table
  | ok headers =>
    cases first : firstHeader headers .cmdline with
    | none =>
      have missing := findCommandLine_of_absent table first
      rw [patchCommandLine_of_refused (patched_of_not_found missing value)]
      exact .absent table first
    | some h =>
      have found : CommandLineAt file h := ⟨headers, table, first⟩
      rcases Nat.lt_or_ge file.length h.finish with outside | inside
      · have missing := findCommandLine_of_outside found outside
        rw [patchCommandLine_of_refused (patched_of_not_found missing value)]
        exact .outside found outside
      · have there := findCommandLine_of_inside found inside
        by_cases fits : h.Fits value
        · rw [patchCommandLine_of_patched (patched_of_fits there fits)]
          exact .written found inside fits
        · rw [patchCommandLine_of_refused (patched_of_not_fits there fits)]
          exact .tooLarge found inside fits

/-! ### The bytes -/

/-- Only the section is written, up to its end: the value first and then zeros. -/
theorem frame_writeAt_stored {file : Bytes} {h : SectionHeader} {value : String}
    (inside : h.finish ≤ file.length) (fits : h.Fits value) :
    (file.writeAt h.offset (h.stored value)).length = file.length ∧
      (file.writeAt h.offset (h.stored value)).slice h.offset h.payloadSize = h.stored value ∧
      ∀ i, ¬window h.offset h.payloadSize i →
        (file.writeAt h.offset (h.stored value))[i]? = file[i]? := by
  have hlen := SectionHeader.length_stored fits
  have hroom : h.offset + (h.stored value).length ≤ file.length := by
    rw [hlen]
    exact inside
  refine ⟨Bytes.length_writeAt hroom, ?_, ?_⟩
  · have hslice := Bytes.slice_writeAt hroom
    rwa [hlen] at hslice
  · have hframe := Bytes.agreeOn_writeAt hroom
    rwa [hlen] at hframe

/-- When a patch is accepted, what it then makes of the file, and what it tells otherwise, of which
the first fault in the order of the checks counts. -/
theorem patchCommandLine_verdict (path : String) (file : Bytes) (value : String) :
    ((patchCommandLine path (.file file) value).value.1 = .ok () ↔
      ∃ headers start size, sectionHeaders file = .ok headers ∧
        Places headers .cmdline start size ∧ start + size ≤ file.length ∧
        (Text.Utf8.encode value).length ≤ size) ∧
    (∀ headers start size, sectionHeaders file = .ok headers → Places headers .cmdline start size →
      (patchCommandLine path (.file file) value).value.1 = .ok () →
      ∃ after, (patchCommandLine path (.file file) value).value.2 = .file after ∧
        after.length = file.length ∧
        after.slice start size = Text.Utf8.encode value ++
          List.replicate (size - (Text.Utf8.encode value).length) 0 ∧
        ∀ i, i < start ∨ start + size ≤ i → after[i]? = file[i]?) ∧
    ∀ e, (patchCommandLine path (.file file) value).value.1 = .error e →
      (patchCommandLine path (.file file) value).value.2 = .file file ∧
      (∀ fault, sectionHeaders file = .error fault → e = .format fault) ∧
      ∀ headers, sectionHeaders file = .ok headers →
        ((∀ h ∈ headers, ¬h.Bears ".cmdline") → e = .missingSections [.cmdline]) ∧
        ∀ start size, Places headers .cmdline start size →
          (file.length < start + size →
            e = .format (.outOfBounds .cmdline (start + size) file.length)) ∧
          (start + size ≤ file.length →
            e = .payloadTooLarge (Text.Utf8.encode value).length size) := by
  have hend := patchEnd_patchCommandLine path file value
  have habsent {headers : List SectionHeader} :
      (∀ h ∈ headers, ¬h.Bears ".cmdline") ↔ firstHeader headers .cmdline = none :=
    (firstHeader_eq_none_iff (p := .cmdline)).symm
  generalize (patchCommandLine path (.file file) value).value = answer at hend ⊢
  simp only [habsent, places_iff]
  cases hend with
  | unreadable table => simp [table]
  | absent table first => simp [table, first]
  | @outside h found out =>
    obtain ⟨headers, table, first⟩ := found
    have hnot : ¬h.offset + h.payloadSize ≤ file.length := Nat.not_le.mpr out
    simp [table, first, hnot, SectionHeader.finish]
  | @tooLarge h found inside large =>
    obtain ⟨headers, table, first⟩ := found
    have hnot : ¬file.length < h.offset + h.payloadSize := Nat.not_lt.mpr inside
    have hlarge : ¬(Text.Utf8.encode value).length ≤ h.payloadSize := large
    simp [table, first, hnot, hlarge]
  | @written h found inside fits =>
    obtain ⟨hlen, hslice, hframe⟩ := frame_writeAt_stored inside fits
    refine ⟨?_, ?_, by simp⟩
    · obtain ⟨headers, table, first⟩ := found
      exact iff_of_true rfl ⟨headers, _, _, table, ⟨h, first, rfl, rfl⟩, inside, fits⟩
    · rintro headers start size table ⟨h', first, rfl, rfl⟩ _
      obtain rfl : h = h' := found.unique ⟨headers, table, first⟩
      refine ⟨_, rfl, hlen, hslice, fun i hi => hframe i ?_⟩
      rintro ⟨hlow, hhigh⟩
      omega

/-- Of the four bytes in the file two are content: a value of one byte leaves the other two as they
are, and one of five bytes is too large. -/
theorem patchCommandLine_paddedSections :
    (∃ after, (patchCommandLine "boot.efi" (.file (cutImage 416)) "x").value = (.ok (), .file after) ∧
      after.slice 404 4 = [120, 0, 0xAA, 0xAA]) ∧
    (patchCommandLine "boot.efi" (.file (cutImage 416)) "quiet").value =
      (.error (.payloadTooLarge 5 2), .file (cutImage 416)) := by
  have table : sectionHeaders (cutImage 416) = .ok paddedHeaders := by decide +kernel
  have hlength : (cutImage 416).length = 416 := by decide +kernel
  obtain ⟨-, -, placed⟩ := places_paddedHeaders
  constructor
  · obtain ⟨accepted, written, -⟩ := patchCommandLine_verdict "boot.efi" (cutImage 416) "x"
    have hok := accepted.mpr ⟨paddedHeaders, 404, 2, table, placed, by
      rw [hlength]
      decide, by decide +kernel⟩
    obtain ⟨after, hafter, hlen, hslice, hframe⟩ := written paddedHeaders 404 2 table placed hok
    refine ⟨after, Prod.ext hok hafter, ?_⟩
    have hline : Text.Utf8.encode "x" = [120] := by decide +kernel
    have hrest : after.slice 406 2 = (cutImage 416).slice 406 2 :=
      Bytes.AgreeOn.slice_eq fun j hj => hframe j (.inr hj.1)
    have hpadding : (cutImage 416).slice 406 2 = [0xAA, 0xAA] := by decide +kernel
    rw [← Bytes.slice_append_slice after 404 2 2, hslice, hrest, hpadding, hline]
    rfl
  · obtain ⟨accepted, -, refused⟩ := patchCommandLine_verdict "boot.efi" (cutImage 416) "quiet"
    cases hend : (patchCommandLine "boot.efi" (.file (cutImage 416)) "quiet").value.1 with
    | ok _ =>
      obtain ⟨headers, start, size, table', placed', -, hroom⟩ := accepted.mp hend
      obtain rfl : paddedHeaders = headers := Except.ok.inj (table.symm.trans table')
      obtain ⟨-, rfl⟩ := placed.unique placed'
      exact absurd hroom (by decide +kernel)
    | error e =>
      obtain ⟨hsame, -, told⟩ := refused e hend
      obtain ⟨-, hlarge⟩ := (told paddedHeaders table).2 404 2 placed
      have hmeasured : (Text.Utf8.encode "quiet").length = 5 := by decide +kernel
      rw [hmeasured, hlength] at hlarge
      refine Prod.ext ?_ hsame
      rw [hend, hlarge (by decide)]

end NextBoot.Image
