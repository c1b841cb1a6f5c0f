import Mathlib.Data.List.Induction
import Mathlib.Tactic.Choose
import NextBoot.Image.Writer
import NextBoot.Proofs.Image.PlacedPayloads

/-! What an image is refused for. Each payload is bound to the first header of its name: of the bound
headers that end past the file the first in the table is told, and otherwise every payload without a
header. -/
namespace NextBoot.Image

/-- All payloads that the table places lie in the file. -/
def AllInside (fileSize : Nat) (headers : List SectionHeader) : Prop :=
  ∀ p start size, Places headers p start size → start + size ≤ fileSize

/-- Of the payloads that the table places past the end of the file, `p` is the one whose header comes
first. -/
def FirstOutside (fileSize : Nat) (headers : List SectionHeader) (p : Payload) (start size : Nat) :
    Prop :=
  ∃ before h after, headers = before ++ h :: after ∧ h.Bears p.sectionName ∧
    (∀ x ∈ before, ¬x.Bears p.sectionName) ∧ h.Spans start size ∧ fileSize < start + size ∧
    AllInside fileSize before

theorem allInside_iff {fileSize : Nat} {headers : List SectionHeader} :
    AllInside fileSize headers ↔ ∀ p h, firstHeader headers p = some h → h.finish ≤ fileSize := by
  constructor
  · intro inside p h first
    exact inside p _ _ (places_of_firstHeader first)
  · rintro inside p start size placed
    obtain ⟨h, first, rfl, rfl⟩ := places_iff.mp placed
    exact inside p h first

theorem FirstOutside.places {fileSize : Nat} {headers : List SectionHeader} {p : Payload}
    {start size : Nat} (outside : FirstOutside fileSize headers p start size) :
    Places headers p start size := by
  obtain ⟨before, h, after, hsplit, hbears, hnone, hspans, -⟩ := outside
  exact ⟨before, h, after, hsplit, hbears, hnone, hspans⟩

/-- A header at the end of the table places a payload only if none before it does. -/
theorem places_concat {before : List SectionHeader} {last : SectionHeader} {p : Payload}
    {start size : Nat} (placed : Places (before ++ [last]) p start size) :
    Places before p start size ∨ last.Bears p.sectionName ∧
      (∀ x ∈ before, ¬x.Bears p.sectionName) ∧ last.Spans start size := by
  obtain ⟨front, h, after, hsplit, hbears, hnone, hspans⟩ := placed
  rcases List.eq_nil_or_concat after with rfl | ⟨rest, x, rfl⟩
  · obtain ⟨rfl, hlast⟩ := List.append_inj' hsplit rfl
    obtain rfl := List.singleton_inj.mp hlast
    exact .inr ⟨hbears, hnone, hspans⟩
  · rw [List.concat_eq_append, ← List.cons_append, ← List.append_assoc] at hsplit
    obtain ⟨rfl, -⟩ := List.append_inj' hsplit rfl
    exact .inl ⟨front, h, rest, rfl, hbears, hnone, hspans⟩

/-- By induction from the end of the table: a header added there places only a payload that none
before it bears. -/
theorem allInside_or_exists_firstOutside (fileSize : Nat) (headers : List SectionHeader) :
    AllInside fileSize headers ∨ ∃ p start size, FirstOutside fileSize headers p start size := by
  induction headers using List.reverseRecOn with
  | nil =>
    refine .inl fun p start size placed => ?_
    obtain ⟨h, first, -⟩ := places_iff.mp placed
    cases first
  | append_singleton before last ih =>
    rcases ih with inside | ⟨p, start, size, rest, h, after, rfl, hbears, hnone, hspans, hout, inside⟩
    · by_cases hlast : ∃ (p : Payload) (start size : Nat), last.Bears p.sectionName ∧
          (∀ x ∈ before, ¬x.Bears p.sectionName) ∧ last.Spans start size ∧ fileSize < start + size
      · obtain ⟨p, start, size, hbears, hnone, hspans, hout⟩ := hlast
        exact .inr ⟨p, start, size, before, last, [], rfl, hbears, hnone, hspans, hout, inside⟩
      · refine .inl fun p start size placed => ?_
        rcases places_concat placed with earlier | ⟨hbears, hnone, hspans⟩
        · exact inside p start size earlier
        · exact Nat.le_of_not_lt fun hout => hlast ⟨p, start, size, hbears, hnone, hspans, hout⟩
    · exact .inr ⟨p, start, size, rest, h, after ++ [last], by simp, hbears, hnone, hspans, hout,
        inside⟩

theorem exists_firstOutside_iff {fileSize : Nat} {headers : List SectionHeader} :
    (∃ p start size, FirstOutside fileSize headers p start size) ↔ ¬AllInside fileSize headers := by
  constructor
  · rintro ⟨p, start, size, outside⟩ inside
    have hle := inside p start size outside.places
    obtain ⟨-, -, -, -, -, -, -, hout, -⟩ := outside
    omega
  · exact (allInside_or_exists_firstOutside fileSize headers).resolve_left

/-! ### Binding -/

theorem bindHeaders_append (fileSize : Nat) (found : Bindings) (before after : List SectionHeader) :
    bindHeaders fileSize found (before ++ after) =
      (bindHeaders fileSize found before).bind fun bound => bindHeaders fileSize bound after := by
  induction before generalizing found with
  | nil => rfl
  | cons h rest ih =>
    rw [List.cons_append, bindHeaders, bindHeaders]
    split
    next => exact ih found
    next p hp =>
      split
      next => exact ih found
      next =>
        cases h.checkBounds p fileSize with
        | error e => rfl
        | ok u => exact ih _

theorem bindHeaders_of_allInside {fileSize : Nat} {headers : List SectionHeader}
    (inside : AllInside fileSize headers) :
    bindHeaders fileSize (fun _ => none) headers = .ok (firstHeader headers) :=
  bindHeaders_eq_ok_iff.mpr
    ⟨fun _ => Option.none_or.symm, fun p h _ first => allInside_iff.mp inside p h first⟩

theorem bindHeaders_of_firstOutside {fileSize : Nat} {headers : List SectionHeader} {p : Payload}
    {start size : Nat} (outside : FirstOutside fileSize headers p start size) :
    bindHeaders fileSize (fun _ => none) headers =
      .error (.outOfBounds p (start + size) fileSize) := by
  obtain ⟨before, h, after, rfl, hbears, hnone, hspans, hout, inside⟩ := outside
  have hp : h.payload? = some p :=
    SectionHeader.payload?_eq_some_iff.mpr (SectionHeader.bears_sectionName_iff.mp hbears)
  have hbound : h.checkBounds p fileSize = .error (.outOfBounds p (start + size) fileSize) := by
    obtain ⟨rfl, rfl⟩ := SectionHeader.spans_iff.mp hspans
    exact if_pos hout
  rw [bindHeaders_append, bindHeaders_of_allInside inside]
  simp only [Except.bind, bindHeaders, hp, firstHeader_eq_none_iff.mpr hnone, Option.isSome_none,
    Bool.false_eq_true, if_false, hbound]
  rfl

/-! ### Extraction -/

section Extract
variable {path : String} {file : Bytes} {headers : List SectionHeader}

theorem extract_of_unreadable {e : FormatError} (table : sectionHeaders file = .error e) :
    extract path (.file file) = .error (.format e) := by
  simp only [extract_file, Assets.ofFile, table, Outcome.mapError_error, Outcome.error_bind]

theorem extract_of_firstOutside (table : sectionHeaders file = .ok headers) {p : Payload}
    {start size : Nat} (outside : FirstOutside file.length headers p start size) :
    extract path (.file file) = .error (.format (.outOfBounds p (start + size) file.length)) := by
  simp only [extract_file, Assets.ofFile, table, bindHeaders_of_firstOutside outside,
    Outcome.mapError_ok, Outcome.mapError_error, Outcome.ok_bind, Outcome.error_bind]

theorem extract_of_absent (table : sectionHeaders file = .ok headers)
    (inside : AllInside file.length headers) {p : Payload} (absent : firstHeader headers p = none) :
    extract path (.file file) =
      .error (.missingSections (Payload.all.filter fun q => (firstHeader headers q).isNone)) := by
  simp only [extract_file, Assets.ofFile, table, bindHeaders_of_allInside inside,
    Outcome.mapError_ok, Outcome.ok_bind]
  split
  next hk hi hc => cases p <;> simp_all
  next => rfl

/-- Each reader is bound to the bytes where its payload is placed. -/
theorem extract_eq_ok_iff (table : sectionHeaders file = .ok headers) {a : Assets} :
    extract path (.file file) = .ok a ↔
      AllInside file.length headers ∧ ∀ p, ∃ start size, Places headers p start size ∧
        a.get p = ⟨path, p, start, size, 0, false⟩ := by
  rw [extract_file, Assets.ofFile_eq_ok_iff, allInside_iff]
  constructor
  · rintro ⟨found, hf, hall⟩
    obtain rfl : headers = found := Except.ok.inj (table.symm.trans hf)
    refine ⟨fun p h hp => ?_, fun p => ?_⟩
    · obtain ⟨x, hx, hle, -⟩ := hall p
      exact Option.some.inj (hp.symm.trans hx) ▸ hle
    · obtain ⟨x, hx, -, hread⟩ := hall p
      exact ⟨_, _, places_of_firstHeader hx, hread⟩
  · rintro ⟨inside, hall⟩
    refine ⟨headers, table, fun p => ?_⟩
    obtain ⟨start, size, placed, hread⟩ := hall p
    obtain ⟨x, hx, rfl, rfl⟩ := places_iff.mp placed
    exact ⟨x, hx, inside p x hx, hread⟩

/-- The readers of headers that are there. -/
def readersOf (path : String) (bound : Payload → SectionHeader) : Assets :=
  ⟨(bound .kernel).reader path .kernel, (bound .initrd).reader path .initrd,
    (bound .cmdline).reader path .cmdline⟩

theorem get_readersOf (path : String) (bound : Payload → SectionHeader) (p : Payload) :
    (readersOf path bound).get p = (bound p).reader path p := by
  cases p <;> rfl

theorem extract_of_bound (table : sectionHeaders file = .ok headers)
    (inside : AllInside file.length headers) {bound : Payload → SectionHeader}
    (hbound : ∀ p, firstHeader headers p = some (bound p)) :
    extract path (.file file) = .ok (readersOf path bound) := by
  rw [extract_eq_ok_iff table]
  exact ⟨inside, fun p => ⟨_, _, places_of_firstHeader (hbound p), get_readersOf path bound p⟩⟩

/-- Where every payload is placed in the file, there are readers. -/
theorem exists_extract_eq_ok (table : sectionHeaders file = .ok headers)
    (inside : AllInside file.length headers)
    (present : ∀ p, ∃ start size, Places headers p start size) :
    ∃ a, extract path (.file file) = .ok a := by
  have hall (p : Payload) : ∃ h, firstHeader headers p = some h := by
    obtain ⟨start, size, placed⟩ := present p
    obtain ⟨h, first, -⟩ := places_iff.mp placed
    exact ⟨h, first⟩
  choose bound hbound using hall
  exact ⟨_, extract_of_bound table inside hbound⟩

/-- A payload that has no header is told only where no payload is placed out of bounds. -/
theorem extract_eq_missing_iff (table : sectionHeaders file = .ok headers)
    {missing : List Payload} :
    extract path (.file file) = .error (.missingSections missing) ↔
      AllInside file.length headers ∧ (∃ p, firstHeader headers p = none) ∧
        missing = Payload.all.filter fun q => (firstHeader headers q).isNone := by
  constructor
  · intro hm
    rcases allInside_or_exists_firstOutside file.length headers with
      inside | ⟨p, start, size, first⟩
    · by_cases habsent : ∃ p, firstHeader headers p = none
      · obtain ⟨p, absent⟩ := habsent
        rw [extract_of_absent table inside absent] at hm
        obtain rfl := ImageError.missingSections.inj (Except.error.inj hm)
        exact ⟨inside, ⟨p, absent⟩, rfl⟩
      · have present (p : Payload) : ∃ start size, Places headers p start size := by
          obtain ⟨h, first⟩ := Option.ne_none_iff_exists'.mp fun hn => habsent ⟨p, hn⟩
          exact ⟨_, _, places_of_firstHeader first⟩
        obtain ⟨a, ha⟩ : ∃ a, extract path (.file file) = .ok a :=
          exists_extract_eq_ok table inside present
        rw [ha] at hm
        cases hm
    · rw [extract_of_firstOutside table first] at hm
      cases hm
  · rintro ⟨inside, ⟨p, absent⟩, rfl⟩
    exact extract_of_absent table inside absent

end Extract

/-- The names of the payloads without a header are those that no header bears, in their order. -/
theorem sectionNames_of_absent (headers : List SectionHeader) :
    (Payload.all.filter fun p => (firstHeader headers p).isNone).map Payload.sectionName =
      [".linux", ".initrd", ".cmdline"].filter fun name => ∀ h ∈ headers, ¬h.Bears name := by
  have hnames : [".linux", ".initrd", ".cmdline"] = Payload.all.map Payload.sectionName := rfl
  rw [hnames, List.filter_map]
  congr 1
  apply List.filter_congr
  intro p _
  rw [Bool.eq_iff_iff, Option.isNone_iff_eq_none, firstHeader_eq_none_iff]
  simp

/-- Extraction is all or nothing: when it gives readers and which, and what it tells otherwise. A
payload that is out of bounds goes before one without a header. -/
theorem extract_verdict (path : String) (file : Bytes) :
    (∀ e, sectionHeaders file = .error e → extract path (.file file) = .error (.format e)) ∧
    ∀ headers, sectionHeaders file = .ok headers →
      ((∃ a, extract path (.file file) = .ok a) ↔
        ∀ p, ∃ start size, Places headers p start size ∧ start + size ≤ file.length) ∧
      (∀ a, extract path (.file file) = .ok a → ∀ p start size, Places headers p start size →
        a.get p = ⟨path, p, start, size, 0, false⟩) ∧
      ((∃ missing, extract path (.file file) = .error (.missingSections missing)) ↔
        (∃ p : Payload, ∀ h ∈ headers, ¬h.Bears p.sectionName) ∧
          ∀ p start size, Places headers p start size → start + size ≤ file.length) ∧
      (∀ missing, extract path (.file file) = .error (.missingSections missing) →
        missing.map Payload.sectionName =
          [".linux", ".initrd", ".cmdline"].filter fun name => ∀ h ∈ headers, ¬h.Bears name) ∧
      ((∃ p start size, Places headers p start size ∧ file.length < start + size) ↔
        ∃ p start size, FirstOutside file.length headers p start size) ∧
      ∀ p start size, FirstOutside file.length headers p start size →
        extract path (.file file) =
          .error (.format (.outOfBounds p (start + size) file.length)) := by
  refine ⟨fun e table => extract_of_unreadable table, fun headers table => ?_⟩
  refine ⟨?_, ?_, ?_, ?_, ?_, fun p start size first => extract_of_firstOutside table first⟩
  · constructor
    · rintro ⟨a, ha⟩ p
      obtain ⟨inside, hall⟩ := (extract_eq_ok_iff table).mp ha
      obtain ⟨start, size, placed, -⟩ := hall p
      exact ⟨start, size, placed, inside p start size placed⟩
    · intro hall
      refine exists_extract_eq_ok table (fun p start size placed => ?_) fun p => ?_
      · obtain ⟨start', size', placed', hle⟩ := hall p
        obtain ⟨rfl, rfl⟩ := placed.unique placed'
        exact hle
      · obtain ⟨start, size, placed, -⟩ := hall p
        exact ⟨start, size, placed⟩
  · intro a ha p start size placed
    obtain ⟨start', size', placed', hread⟩ := ((extract_eq_ok_iff table).mp ha).2 p
    obtain ⟨rfl, rfl⟩ := placed.unique placed'
    exact hread
  · simp only [← firstHeader_eq_none_iff]
    constructor
    · rintro ⟨missing, hm⟩
      obtain ⟨inside, absent, -⟩ := (extract_eq_missing_iff table).mp hm
      exact ⟨absent, inside⟩
    · rintro ⟨absent, inside⟩
      exact ⟨_, (extract_eq_missing_iff table).mpr ⟨inside, absent, rfl⟩⟩
  · intro missing hm
    obtain ⟨-, -, rfl⟩ := (extract_eq_missing_iff table).mp hm
    exact sectionNames_of_absent headers
  · rw [exists_firstOutside_iff]
    simp only [AllInside, not_forall, exists_prop, Nat.not_le]

/-- Two kernels of which the first is full, an empty initrd, a command line with a rest to fill up,
and a section that nothing reads. -/
def paddedSections : List NewSection :=
  [⟨Text.Utf8.encode ".text", [0x90]⟩, ⟨Text.Utf8.encode ".cmdline", Text.Utf8.encode "ro"⟩,
    ⟨Text.Utf8.encode ".linux", [75, 69, 82, 78]⟩, ⟨Text.Utf8.encode ".initrd", []⟩,
    ⟨Text.Utf8.encode ".linux", [79, 76, 68]⟩]

/-- A name with zeros after it. -/
def labelOf (name : String) : Vector UInt8 8 :=
  Vector.ofFn fun i => (Text.Utf8.encode name).getD i 0

/-- Their headers. All but the second kernel lie in the first 412 bytes. -/
def paddedHeaders : List SectionHeader :=
  [⟨labelOf ".text", 1, 4, 400⟩, ⟨labelOf ".cmdline", 2, 4, 404⟩, ⟨labelOf ".linux", 4, 4, 408⟩,
    ⟨labelOf ".initrd", 0, 0, 412⟩, ⟨labelOf ".linux", 3, 4, 412⟩]

/-- The headers of the first two alone. -/
def lineHeaders : List SectionHeader :=
  [⟨labelOf ".text", 1, 4, 280⟩, ⟨labelOf ".cmdline", 2, 4, 284⟩]

/-- The image of these sections as far as it was written. -/
def cutImage (size : Nat) : Bytes := (newImage 4 0xAA paddedSections).take size

theorem places_paddedHeaders : Places paddedHeaders .kernel 408 4 ∧
    Places paddedHeaders .initrd 412 0 ∧ Places paddedHeaders .cmdline 404 2 :=
  ⟨⟨paddedHeaders.take 2, _, [paddedHeaders[3], paddedHeaders[4]], rfl, by decide +kernel,
      by decide +kernel, ⟨rfl, by decide, by decide⟩⟩,
    ⟨paddedHeaders.take 3, _, [paddedHeaders[4]], rfl, by decide +kernel, by decide +kernel,
      ⟨rfl, by decide, by decide⟩⟩,
    ⟨paddedHeaders.take 1, _, paddedHeaders.drop 2, rfl, by decide +kernel, by decide +kernel,
      ⟨rfl, by decide, by decide⟩⟩⟩

/-- A second kernel that is cut off does no harm, and a first one does. Without both kernels and
without an initrd, these two are told. -/
theorem extract_cutImage :
    extract "boot.efi" (.file (cutImage 412)) = .ok ⟨⟨"boot.efi", .kernel, 408, 4, 0, false⟩,
      ⟨"boot.efi", .initrd, 412, 0, 0, false⟩, ⟨"boot.efi", .cmdline, 404, 2, 0, false⟩⟩ ∧
    extract "boot.efi" (.file (cutImage 411)) = .error (.format (.outOfBounds .kernel 412 411)) ∧
    ∃ missing, extract "boot.efi" (.file (newImage 4 0xAA (paddedSections.take 2))) =
        .error (.missingSections missing) ∧
      missing.map Payload.sectionName = [".linux", ".initrd"] := by
  obtain ⟨kernel, initrd, cmdline⟩ := places_paddedHeaders
  refine ⟨?_, ?_, ?_⟩
  · obtain ⟨accepted, readers, -⟩ :=
      (extract_verdict "boot.efi" (cutImage 412)).2 paddedHeaders (by decide +kernel)
    have hlength : (cutImage 412).length = 412 := by decide +kernel
    obtain ⟨a, ha⟩ := accepted.mpr fun p => by
      rw [hlength]
      cases p with
      | kernel => exact ⟨408, 4, kernel, by decide⟩
      | initrd => exact ⟨412, 0, initrd, by decide⟩
      | cmdline => exact ⟨404, 2, cmdline, by decide⟩
    rw [ha]
    apply congrArg Except.ok
    apply Assets.ext_get
    intro p
    cases p with
    | kernel => exact readers a ha _ _ _ kernel
    | initrd => exact readers a ha _ _ _ initrd
    | cmdline => exact readers a ha _ _ _ cmdline
  · obtain ⟨-, -, -, -, -, outside⟩ :=
      (extract_verdict "boot.efi" (cutImage 411)).2 paddedHeaders (by decide +kernel)
    have hlength : (cutImage 411).length = 411 := by decide +kernel
    rw [hlength] at outside
    have inside : ∀ h ∈ paddedHeaders.take 2, h.finish ≤ 411 := by decide +kernel
    refine outside .kernel 408 4 ⟨paddedHeaders.take 2, _, [paddedHeaders[3], paddedHeaders[4]], rfl,
      by decide +kernel, by decide +kernel, ⟨rfl, by decide, by decide⟩, by decide, ?_⟩
    exact allInside_iff.mpr fun p h first => inside h (List.mem_of_find?_eq_some first)
  · obtain ⟨-, -, absent, names, -⟩ :=
      (extract_verdict "boot.efi" (newImage 4 0xAA (paddedSections.take 2))).2 lineHeaders
        (by decide +kernel)
    have hlength : (newImage 4 0xAA (paddedSections.take 2)).length = 288 := by decide +kernel
    have inside : ∀ h ∈ lineHeaders, h.finish ≤ 288 := by decide +kernel
    obtain ⟨missing, hm⟩ := absent.mpr ⟨⟨.kernel, by decide +kernel⟩, by
      rw [hlength]
      exact allInside_iff.mpr fun p h first => inside h (List.mem_of_find?_eq_some first)⟩
    exact ⟨missing, hm, (names missing hm).trans (by decide +kernel)⟩

end NextBoot.Image
