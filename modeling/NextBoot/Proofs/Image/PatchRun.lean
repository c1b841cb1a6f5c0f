import NextBoot.Image.Writer
import NextBoot.Proofs.Image.ReadRun
import NextBoot.Proofs.Text.EncodedZeros

/-! Runs of patches of the stored command line. Where the section lies apart from the headers, each
patch finds the section table and the section as the first did, so that a run leaves only its last
accepted value. -/
namespace NextBoot.Image

open Bytes (AgreeOn window)

/-- An image whose first command line section lies in the file and apart from the headers. -/
structure Patchable (file : Bytes) (headers : List SectionHeader) (h : SectionHeader) : Prop where
  parsed : sectionHeaders file = .ok headers
  first : firstHeader headers .cmdline = some h
  inBounds : h.finish ≤ file.length
  apart : ∀ i, window h.offset h.payloadSize i → ¬headerPlaces file i

/-- Whether the section has room for a value. -/
def SectionHeader.Fits (h : SectionHeader) (value : String) : Prop :=
  (Text.Utf8.encode value).length ≤ h.payloadSize

instance (h : SectionHeader) (value : String) : Decidable (h.Fits value) :=
  inferInstanceAs (Decidable (_ ≤ _))

/-- What a patch with a value answers. -/
def SectionHeader.patchAnswer (h : SectionHeader) (value : String) : Except ImageError Unit :=
  if h.Fits value then .ok ()
  else .error (.payloadTooLarge (Text.Utf8.encode value).length h.payloadSize)

/-- The bytes of the section that hold a value. -/
def SectionHeader.stored (h : SectionHeader) (value : String) : Bytes :=
  (Text.Utf8.encode value).padTo h.payloadSize

/-- The last of some values that the section has room for. -/
def SectionHeader.lastFit (h : SectionHeader) (values : List String) : Option String :=
  (values.filter fun value => h.Fits value).getLast?

/-- The file with a value, if there is one, in place of the bytes of the section. -/
def SectionHeader.replaced (h : SectionHeader) (file : Bytes) : Option String → Bytes
  | none => file
  | some value => file.take h.offset ++ h.stored value ++ file.drop h.finish

/-- Patch an image with one value after the other; the answers, and what is there afterwards. -/
def patchEach (path : String) : PathState → List String → List (Except ImageError Unit) × PathState
  | state, [] => ([], state)
  | state, value :: rest =>
    let (answer, next) := (patchCommandLine path state value).value
    let (answers, last) := patchEach path next rest
    (answer :: answers, last)

theorem SectionHeader.length_stored {h : SectionHeader} {value : String} (hv : h.Fits value) :
    (h.stored value).length = h.payloadSize := Bytes.length_padTo hv

/-! ### One patch -/

section Patch
variable {file : Bytes} {h : SectionHeader} {value : String}

theorem patched_of_fits (found : findCommandLine file = .ok h) (fits : h.Fits value) :
    patched file value = .ok ⟨(Text.Utf8.encode value).length, h.payloadSize,
      file.writeAt h.offset (h.stored value)⟩ := by
  simp only [patched, found, Outcome.ok_bind]
  rw [if_neg (Nat.not_lt.mpr fits)]
  rfl

theorem patched_of_not_fits (found : findCommandLine file = .ok h) (large : ¬h.Fits value) :
    patched file value =
      .error (.payloadTooLarge (Text.Utf8.encode value).length h.payloadSize) := by
  simp only [patched, found, Outcome.ok_bind]
  rw [if_pos (Nat.not_le.mp large)]
  rfl

theorem patchCommandLine_of_patched {p : Patched} (accepted : patched file value = .ok p)
    (path : String) :
    (patchCommandLine path (.file file) value).value = (.ok (), .file p.file) := by
  simp only [patchCommandLine, openImageWritable, openImage, Outcome.ok_bind, accepted]
  rfl

theorem patchCommandLine_of_refused {e : ImageError} (refused : patched file value = .error e)
    (path : String) :
    (patchCommandLine path (.file file) value).value = (.error e, .file file) := by
  simp only [patchCommandLine, openImageWritable, openImage, Outcome.ok_bind, refused]
  rfl

end Patch

/-! ### Patches one after the other -/

section Patchable
variable {file : Bytes} {headers : List SectionHeader} {h : SectionHeader}

theorem Patchable.findCommandLine_eq (t : Patchable file headers h) :
    findCommandLine file = .ok h :=
  findCommandLine_eq_ok_iff.mpr ⟨headers, t.parsed, t.first, t.inBounds⟩

/-- Rewriting the section leaves the image as patchable as it was. -/
theorem Patchable.writeAt (t : Patchable file headers h) {data : Bytes}
    (hd : data.length = h.payloadSize) : Patchable (file.writeAt h.offset data) headers h := by
  have hroom : h.offset + data.length ≤ file.length := by
    rw [hd]
    exact t.inBounds
  have hagree : AgreeOn (headerPlaces file) file (file.writeAt h.offset data) := by
    apply (Bytes.agreeOn_writeAt hroom).symm.mono
    intro i hi hw
    rw [hd] at hw
    exact t.apart i hw hi
  have hsame := sameStart_of_agreeOn hagree
  refine ⟨?_, t.first, ?_, ?_⟩
  · exact sectionHeaders_eq_ok_iff.mpr ((sectionHeaders_eq_ok_iff.mp t.parsed).congr hagree)
  · rw [Bytes.length_writeAt hroom]
    exact t.inBounds
  · rw [← hsame.headerPlaces_eq]
    exact t.apart

theorem Patchable.patchCommandLine_value (t : Patchable file headers h) (path value : String) :
    (patchCommandLine path (.file file) value).value =
      (h.patchAnswer value,
        .file (if h.Fits value then file.writeAt h.offset (h.stored value) else file)) := by
  by_cases hv : h.Fits value
  · rw [patchCommandLine_of_patched (patched_of_fits t.findCommandLine_eq hv),
      SectionHeader.patchAnswer, if_pos hv, if_pos hv]
  · rw [patchCommandLine_of_refused (patched_of_not_fits t.findCommandLine_eq hv),
      SectionHeader.patchAnswer, if_neg hv, if_neg hv]

/-- Patching replaces the section by a value that it has room for, and does nothing otherwise. -/
theorem Patchable.writeAt_stored (t : Patchable file headers h) {value : String}
    (hv : h.Fits value) :
    file.writeAt h.offset (h.stored value) = h.replaced file (some value) := by
  have hlen := SectionHeader.length_stored hv
  rw [Bytes.writeAt_eq (by rw [hlen]; exact t.inBounds), hlen]
  rfl

theorem Patchable.replaced (t : Patchable file headers h) {value : String} (hv : h.Fits value) :
    Patchable (h.replaced file (some value)) headers h := by
  rw [← t.writeAt_stored hv]
  exact t.writeAt (SectionHeader.length_stored hv)

/-- The later of two values leaves no trace of the earlier. -/
theorem Patchable.replaced_replaced (t : Patchable file headers h) {first later : String}
    (hf : h.Fits first) (hl : h.Fits later) :
    h.replaced (h.replaced file (some first)) (some later) = h.replaced file (some later) := by
  have hfirst := SectionHeader.length_stored hf
  have hlater := SectionHeader.length_stored hl
  rw [← (t.replaced hf).writeAt_stored hl, ← t.writeAt_stored hf, ← t.writeAt_stored hl]
  exact Bytes.writeAt_writeAt (hlater.trans hfirst.symm) (by rw [hfirst]; exact t.inBounds)

theorem SectionHeader.lastFit_cons_of_fits {value : String} (hv : h.Fits value)
    (rest : List String) :
    h.lastFit (value :: rest) = some ((h.lastFit rest).getD value) := by
  rw [lastFit, List.filter_cons_of_pos (by simpa using hv), List.getLast?_cons]
  rfl

theorem SectionHeader.lastFit_cons_of_not_fits {value : String} (hv : ¬h.Fits value)
    (rest : List String) : h.lastFit (value :: rest) = h.lastFit rest := by
  rw [lastFit, List.filter_cons_of_neg (by simpa using hv)]
  rfl

theorem SectionHeader.fits_of_lastFit {values : List String} {value : String}
    (hv : h.lastFit values = some value) : h.Fits value := by
  have hm := List.mem_of_getLast? hv
  simpa using (List.mem_filter.mp hm).2

/-- By induction on the values, since each patch leaves a patchable image: the answers depend on the
values alone, and the last accepted value is what remains. -/
theorem Patchable.patchEach_eq (t : Patchable file headers h) (path : String)
    (values : List String) :
    patchEach path (.file file) values =
      (values.map h.patchAnswer, .file (h.replaced file (h.lastFit values))) := by
  induction values generalizing file with
  | nil => rfl
  | cons value rest ih =>
    rw [patchEach, t.patchCommandLine_value]
    by_cases hv : h.Fits value
    · have hlast : h.replaced (h.replaced file (some value)) (h.lastFit rest) =
          h.replaced file (some ((h.lastFit rest).getD value)) := by
        cases hr : h.lastFit rest with
        | none => rfl
        | some later => exact t.replaced_replaced hv (SectionHeader.fits_of_lastFit hr)
      simp only [if_pos hv, t.writeAt_stored hv, ih (t.replaced hv), hlast,
        SectionHeader.lastFit_cons_of_fits hv, List.map_cons]
    · simp only [if_neg hv, ih t, SectionHeader.lastFit_cons_of_not_fits hv, List.map_cons]

theorem Patchable.length_replaced (t : Patchable file headers h) {value : String}
    (hv : h.Fits value) : (h.replaced file (some value)).length = file.length := by
  rw [← t.writeAt_stored hv]
  exact Bytes.length_writeAt (by rw [SectionHeader.length_stored hv]; exact t.inBounds)

theorem Patchable.slice_replaced (t : Patchable file headers h) {value : String}
    (hv : h.Fits value) :
    (h.replaced file (some value)).slice h.offset h.payloadSize = h.stored value := by
  have hlen := SectionHeader.length_stored hv
  rw [← t.writeAt_stored hv, ← hlen]
  exact Bytes.slice_writeAt (by rw [hlen]; exact t.inBounds)

theorem Patchable.agreeOn_replaced (t : Patchable file headers h) {value : String}
    (hv : h.Fits value) :
    AgreeOn (fun i => ¬window h.offset h.payloadSize i) (h.replaced file (some value)) file := by
  have hlen := SectionHeader.length_stored hv
  rw [← t.writeAt_stored hv, ← hlen]
  exact Bytes.agreeOn_writeAt (by rw [hlen]; exact t.inBounds)

theorem Patchable.readCommandLine_eq (t : Patchable file headers h) (path : String) :
    readCommandLine path (.file file) =
      .ok (CommandLine.decode (file.slice h.offset h.payloadSize)) :=
  readCommandLine_of_found t.findCommandLine_eq

theorem Patchable.readCommandLine_replaced (t : Patchable file headers h) {value : String}
    (hv : h.Fits value) (path : String) :
    readCommandLine path (.file (h.replaced file (some value))) =
      .ok (Text.trim (Text.dropTrailingNuls value)) := by
  rw [(t.replaced hv).readCommandLine_eq, t.slice_replaced hv, SectionHeader.stored,
    CommandLine.decode_padTo]

/-- An image that was accepted stays so, with the same readers. -/
theorem Patchable.extract_replaced (t : Patchable file headers h) {path : String} {a : Assets}
    (ha : extract path (.file file) = .ok a) {value : String} (hv : h.Fits value) :
    extract path (.file (h.replaced file (some value))) = .ok a := by
  rw [extract_file, Assets.ofFile_eq_ok_iff] at ha ⊢
  obtain ⟨found, hf, hall⟩ := ha
  obtain rfl : headers = found := Except.ok.inj (t.parsed.symm.trans hf)
  exact ⟨headers, (t.replaced hv).parsed, by rwa [t.length_replaced hv]⟩

end Patchable

/-- A run of patches: which values are accepted, what the file is afterwards, how its command line
reads then, and that it boots as before but for that. -/
theorem patchEach_spec {file : Bytes} {headers : List SectionHeader} {h : SectionHeader}
    (t : Patchable file headers h) (path : String) (values : List String) :
    (patchEach path (.file file) values).1 = values.map h.patchAnswer ∧
    (patchEach path (.file file) values).2 = .file (h.replaced file (h.lastFit values)) ∧
    (readCommandLine path (patchEach path (.file file) values).2 =
      match h.lastFit values with
      | none => readCommandLine path (.file file)
      | some value => .ok (Text.trim (Text.dropTrailingNuls value))) ∧
    ∀ a, extract path (.file file) = .ok a →
      extract path (patchEach path (.file file) values).2 = .ok a ∧
      (∀ p x, firstHeader headers p = some x →
        (∀ i, window x.offset x.payloadSize i → ¬window h.offset h.payloadSize i) →
        (a.get p).stream (h.replaced file (h.lastFit values)) = (a.get p).stream file) ∧
      ∀ value, h.lastFit values = some value →
        (a.get .cmdline).stream (h.replaced file (some value)) = [.data (h.stored value)] := by
  rw [t.patchEach_eq path values]
  refine ⟨rfl, rfl, ?_, ?_⟩
  · cases hl : h.lastFit values with
    | none => rfl
    | some value => exact t.readCommandLine_replaced (SectionHeader.fits_of_lastFit hl) path
  intro a ha
  have hreaders := ha
  rw [extract_file, Assets.ofFile_eq_ok_iff] at hreaders
  obtain ⟨found, hf, hall⟩ := hreaders
  obtain rfl : headers = found := Except.ok.inj (t.parsed.symm.trans hf)
  cases hl : h.lastFit values with
  | none => exact ⟨ha, fun _ _ _ _ => rfl, fun _ hv => by cases hv⟩
  | some value =>
    have hv := SectionHeader.fits_of_lastFit hl
    refine ⟨t.extract_replaced ha hv, ?_, ?_⟩
    · intro p x hx hapart
      obtain ⟨y, hy, -, hget⟩ := hall p
      obtain rfl : x = y := Option.some.inj (hx.symm.trans hy)
      rw [hget]
      exact SectionHeader.stream_reader_congr ((t.agreeOn_replaced hv).mono hapart) path p
    · intro other ho
      obtain rfl : value = other := Option.some.inj ho
      obtain ⟨y, hy, -, hget⟩ := hall .cmdline
      obtain rfl : h = y := Option.some.inj (t.first.symm.trans hy)
      rw [hget, SectionHeader.stream_reader (t.replaced hv).inBounds, t.slice_replaced hv]

/-- A small image: a kernel of two bytes, an initrd of one, and a command line. -/
def smallImage : Bytes :=
  newImage 1 0xAA
    [⟨Text.Utf8.encode ".linux", [75, 76]⟩, ⟨Text.Utf8.encode ".initrd", [73]⟩,
      ⟨Text.Utf8.encode ".cmdline", Text.Utf8.encode "quiet"⟩]

def smallKernelHeader : SectionHeader := ⟨#v[46, 108, 105, 110, 117, 120, 0, 0], 2, 2, 320⟩

def smallInitrdHeader : SectionHeader := ⟨#v[46, 105, 110, 105, 116, 114, 100, 0], 1, 1, 322⟩

def smallCommandLineHeader : SectionHeader :=
  ⟨#v[46, 99, 109, 100, 108, 105, 110, 101], 5, 5, 323⟩

def smallHeaders : List SectionHeader :=
  [smallKernelHeader, smallInitrdHeader, smallCommandLineHeader]

theorem smallImage_patchable : Patchable smallImage smallHeaders smallCommandLineHeader where
  parsed := by decide +kernel
  first := by decide +kernel
  inBounds := by decide +kernel
  apart := by
    have he : tableEnd smallImage = 320 := by decide +kernel
    have ho : smallCommandLineHeader.offset = 323 := by decide
    rintro i ⟨hlow, -⟩ (hdos | ⟨-, htable⟩)
    · simp only [dosHeaderSize] at hdos
      omega
    · omega

/-- A value that is too long changes nothing, and a shorter one after it leaves no remainder. -/
theorem patchEach_smallImage :
    Patchable smallImage smallHeaders smallCommandLineHeader ∧
      (patchEach "boot.efi" (.file smallImage) ["debug", "console=tty0", "ro "]).1 =
        [.ok (), .error (.payloadTooLarge 12 5), .ok ()] ∧
      readCommandLine "boot.efi"
        (patchEach "boot.efi" (.file smallImage) ["debug", "console=tty0", "ro "]).2 = .ok "ro" := by
  obtain ⟨answers, -, line, -⟩ :=
    patchEach_spec smallImage_patchable "boot.efi" ["debug", "console=tty0", "ro "]
  refine ⟨smallImage_patchable, answers.trans (by decide +kernel), line.trans ?_⟩
  decide +kernel

end NextBoot.Image
