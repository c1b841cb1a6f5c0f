import Mathlib.Algebra.Ring.Nat
import NextBoot.Proofs.Image.HeaderGrammar

/-! The headers read with every sum and every index guarded. A file says how far to go and where to
look, so a sum may not fit in 64 bits and an index may lie outside its buffer. The reading that would
stop there never stops, and answers as the unguarded one. -/
namespace NextBoot.Image

namespace Guarded

def sum? (a b : Nat) : Option Nat := if a + b < 2 ^ 64 then some (a + b) else none

def product? (a b : Nat) : Option Nat := if a * b < 2 ^ 64 then some (a * b) else none

/-- The bytes of a buffer between two indices. -/
def part? (buffer : Bytes) (start finish : Nat) : Option Bytes :=
  if start ≤ finish ∧ finish ≤ buffer.length then some (buffer.slice start (finish - start)) else none

def word16? (buffer : Bytes) (i : Nat) : Option UInt16 := do
  return Bytes.word16 (← buffer[i]?) (← buffer[i + 1]?)

def word32? (buffer : Bytes) (i : Nat) : Option UInt32 := do
  return Bytes.word32 (← buffer[i]?) (← buffer[i + 1]?) (← buffer[i + 2]?) (← buffer[i + 3]?)

/-- A buffer filled from the file, or none if the file ends before it is full. -/
def fill? (file : Bytes) (offset size : Nat) : Option (Option Bytes) := do
  let finish ← sum? offset size
  return if size = 0 ∨ finish ≤ file.length then some (file.slice offset size) else none

def header? (b : Bytes) : Option SectionHeader := do
  let label ← part? b 0 8
  return ⟨.ofFn fun i => label.getD i 0, ← word32? b 8, ← word32? b 16, ← word32? b 20⟩

/-- The pieces of a buffer that each hold one header. -/
def pieces (table : Bytes) : List Bytes :=
  (List.range (table.length / SectionHeader.size)).map fun i =>
    table.slice (SectionHeader.size * i) SectionHeader.size

def checkOptionalHeader? (file : Bytes) (offset size : Nat) :
    Option (Except FormatError Unit) := do
  if size < 2 then return .ok ()
  else match ← fill? file offset 2 with
    | none => return .error (.truncated .optionalHeader)
    | some b =>
      let magic := (← word16? b 0).toNat
      if magic = 0x10b ∨ magic = 0x20b then return .ok () else return .error (.unknownMagic magic)

def readTable? (file : Bytes) (offset count : Nat) :
    Option (Except FormatError (List SectionHeader)) := do
  match ← fill? file offset (← product? count SectionHeader.size) with
  | none => return .error (.truncated .sectionTable)
  | some table => return .ok (← (pieces table).mapM header?)

/-- What is behind the signature at `peOffset`: the counts in the file header, and what they lead to. -/
def readSections? (file coff : Bytes) (peOffset : Nat) :
    Option (Except FormatError (List SectionHeader)) := do
  let count := (← word16? coff 2).toNat
  let optionalSize := (← word16? coff 16).toNat
  if sectionLimit < count then return .error (.tooManySections count)
  else
    let optionalOffset ← sum? peOffset peHeaderSize
    match ← checkOptionalHeader? file optionalOffset optionalSize with
    | .error e => return .error e
    | .ok () => readTable? file (← sum? optionalOffset optionalSize) count

def readPeHeader? (file : Bytes) (peOffset : Nat) :
    Option (Except FormatError (List SectionHeader)) := do
  match ← fill? file peOffset peHeaderSize with
  | none => return .error (.truncated .peHeader)
  | some pe =>
    if (← part? pe 0 4) ≠ [0x50, 0x45, 0, 0] then return .error (.noPeSignature peOffset)
    else readSections? file (← part? pe 4 pe.length) peOffset

def sectionHeaders? (file : Bytes) : Option (Except FormatError (List SectionHeader)) := do
  match ← fill? file 0 dosHeaderSize with
  | none => return .error (.truncated .dosHeader)
  | some dos =>
    if (← part? dos 0 2) ≠ [0x4D, 0x5A] then return .error .noDosSignature
    else readPeHeader? file (← word32? dos 60).toNat

def checkBounds? (h : SectionHeader) (payload : Payload) (fileSize : Nat) :
    Option (Except FormatError Unit) := do
  let finish ← sum? h.offset h.payloadSize
  return if fileSize < finish then .error (.outOfBounds payload finish fileSize) else .ok ()

/-! ### Buffers that are filled from the file -/

section Buffer
variable {file : Bytes} {offset size i : Nat}

theorem sum?_of_lt {a b : Nat} (h : a + b < 2 ^ 64) : sum? a b = some (a + b) := if_pos h

theorem product?_of_lt {a b : Nat} (h : a * b < 2 ^ 64) : product? a b = some (a * b) := if_pos h

theorem fill?_of_fits (near : offset + size < 2 ^ 64)
    (fits : size = 0 ∨ offset + size ≤ file.length) :
    fill? file offset size = some (some (file.slice offset size)) := by
  simp only [fill?, sum?_of_lt near, Option.bind_eq_bind, Option.bind_some, if_pos fits]
  rfl

theorem fill?_of_short (near : offset + size < 2 ^ 64)
    (short : ¬(size = 0 ∨ offset + size ≤ file.length)) : fill? file offset size = some none := by
  simp only [fill?, sum?_of_lt near, Option.bind_eq_bind, Option.bind_some, if_neg short]
  rfl

theorem getElem?_filled (fits : offset + size ≤ file.length) (hi : i < size) :
    (file.slice offset size)[i]? = some (byteAt file (offset + i)) := by
  have hlt : offset + i < file.length := by omega
  rw [Bytes.getElem?_slice, if_pos hi, byteAt, List.getD_eq_getElem?_getD,
    List.getElem?_eq_getElem hlt, Option.getD_some]

theorem word16?_filled (fits : offset + size ≤ file.length) (hi : i + 1 < size) :
    word16? (file.slice offset size) i =
      some (Bytes.word16 (byteAt file (offset + i)) (byteAt file (offset + i + 1))) := by
  simp only [word16?, getElem?_filled fits hi, getElem?_filled fits (Nat.lt_of_succ_lt hi),
    Option.bind_eq_bind, Option.bind_some]
  rfl

theorem word32?_filled (fits : offset + size ≤ file.length) (hi : i + 3 < size) :
    word32? (file.slice offset size) i =
      some (.ofNat (word32At file (offset + i))) := by
  have hbyte (k : Nat) (hk : k ≤ 3) := getElem?_filled fits (show i + k < size by omega)
  simp only [word32?, hbyte 1 (by decide), hbyte 2 (by decide), hbyte 3 (by decide),
    show (file.slice offset size)[i]? = _ from hbyte 0 (by decide), Option.bind_eq_bind,
    Option.bind_some, word32At, UInt32.ofNat_toNat]
  rfl

theorem part?_filled {start finish : Nat} (fits : offset + size ≤ file.length)
    (ordered : start ≤ finish) (inside : finish ≤ size) :
    part? (file.slice offset size) start finish =
      some (file.slice (offset + start) (finish - start)) := by
  rw [part?, if_pos ⟨ordered, by rwa [Bytes.length_slice_of_le fits]⟩,
    Bytes.slice_slice (by omega)]

theorem getD_filled (fits : offset + size ≤ file.length) (hi : i < size) :
    (file.slice offset size).getD i 0 = byteAt file (offset + i) := by
  rw [List.getD_eq_getElem?_getD, getElem?_filled fits hi, Option.getD_some]

theorem header?_filled {place : Nat} (fits : place + SectionHeader.size ≤ file.length) :
    header? (file.slice place SectionHeader.size) = some (headerAt file place) := by
  have hlabel : part? (file.slice place SectionHeader.size) 0 8 = some (file.slice place 8) :=
    part?_filled fits (Nat.zero_le 8) (by decide)
  have hname (k : Fin 8) : (file.slice place 8).getD k 0 = byteAt file (place + k) := by
    apply getD_filled _ k.isLt
    simp only [SectionHeader.size] at fits
    omega
  simp only [header?, hlabel, hname, word32?_filled fits (show 8 + 3 < SectionHeader.size by decide),
    word32?_filled fits (show 16 + 3 < SectionHeader.size by decide),
    word32?_filled fits (show 20 + 3 < SectionHeader.size by decide), Option.bind_eq_bind,
    Option.bind_some]
  rfl

/-! ### The table -/

theorem mapM_eq_some_map {α β : Type} {f : α → Option β} {g : α → β} {l : List α}
    (h : ∀ a ∈ l, f a = some (g a)) : l.mapM f = some (l.map g) := by
  induction l with
  | nil => rfl
  | cons a l ih =>
    obtain ⟨ha, hl⟩ := List.forall_mem_cons.mp h
    simp [List.mapM_cons, ha, ih hl]

theorem pieces_filled {count : Nat} (fits : offset + count * SectionHeader.size ≤ file.length) :
    pieces (file.slice offset (count * SectionHeader.size)) = (List.range count).map fun i =>
      file.slice (offset + SectionHeader.size * i) SectionHeader.size := by
  rw [pieces, Bytes.length_slice_of_le fits, Nat.mul_div_cancel _ (by decide)]
  apply List.map_congr_left
  intro i hi
  have hlt := List.mem_range.mp hi
  apply Bytes.slice_slice
  rw [← Nat.mul_succ, Nat.mul_comm count]
  exact Nat.mul_le_mul_left _ hlt

/-- Each piece of the table is a header. A table of no headers may lie past the end of the file. -/
theorem mapM_pieces {count : Nat}
    (fits : count = 0 ∨ offset + SectionHeader.size * count ≤ file.length) :
    (pieces (file.slice offset (count * SectionHeader.size))).mapM header? =
      some ((List.range count).map fun i => headerAt file (offset + SectionHeader.size * i)) := by
  rcases fits with rfl | fits
  · simp [pieces, Bytes.slice]
  rw [pieces_filled (by rwa [Nat.mul_comm count]), List.mapM_map]
  apply mapM_eq_some_map
  intro i hi
  have hlt := List.mem_range.mp hi
  apply header?_filled
  simp only [SectionHeader.size] at fits ⊢
  omega

/-- The table read at once and cut into pieces is the table read header by header. -/
theorem readTable?_eq {count : Nat} (small : count ≤ sectionLimit) (near : offset < 2 ^ 63) :
    readTable? file offset count = some (match readHeaders? file offset count with
      | none => .error (.truncated .sectionTable)
      | some headers => .ok headers) := by
  have hsize : count * SectionHeader.size ≤ sectionLimit * SectionHeader.size :=
    Nat.mul_le_mul_right _ small
  simp only [sectionLimit, SectionHeader.size, Nat.reduceMul] at hsize
  have hproduct : product? count SectionHeader.size = some (count * SectionHeader.size) := by
    apply product?_of_lt
    simp only [SectionHeader.size]
    omega
  have hfits : (count * SectionHeader.size = 0 ∨
      offset + count * SectionHeader.size ≤ file.length) ↔
      count = 0 ∨ offset + SectionHeader.size * count ≤ file.length := by
    simp only [SectionHeader.size]
    omega
  have hnear : offset + count * SectionHeader.size < 2 ^ 64 := by
    simp only [SectionHeader.size]
    omega
  simp only [readTable?, hproduct, readHeaders?_eq, Option.bind_eq_bind, Option.bind_some]
  by_cases fits : count = 0 ∨ offset + SectionHeader.size * count ≤ file.length
  · simp only [fill?_of_fits hnear (hfits.mpr fits), Option.bind_some, mapM_pieces fits, if_pos fits]
    rfl
  · simp only [fill?_of_short hnear (mt hfits.mp fits), Option.bind_some, if_neg fits]
    rfl

theorem checkOptionalHeader?_eq (near : offset < 2 ^ 63) (size : Nat) :
    checkOptionalHeader? file offset size = some (checkOptionalHeader file offset size) := by
  have hnear : offset + 2 < 2 ^ 64 := by omega
  unfold checkOptionalHeader? checkOptionalHeader
  split
  next => rfl
  cases hmagic : file.readAt? offset 2 with
  | none =>
    have hshort := (readAt?_eq_none_iff (by decide)).mp hmagic
    rw [fill?_of_short hnear (by omega)]
    rfl
  | some b =>
    have hfits := (exists_readAt?_iff (by decide)).mp ⟨b, hmagic⟩
    have h₀ : byteAt file (offset + 0) = b[0] := byteAt_of_readAt? hmagic 0 (by decide)
    have h₁ : byteAt file (offset + 0 + 1) = b[1] := byteAt_of_readAt? hmagic 1 (by decide)
    rw [fill?_of_fits hnear (.inr hfits)]
    simp only [word16?_filled hfits (show 0 + 1 < 2 by decide), h₀, h₁, Option.bind_eq_bind,
      Option.bind_some]
    split <;> rfl

end Buffer

/-! ### The whole reading -/

theorem slice_eq_ofFn {file : Bytes} {offset size : Nat} (fits : offset + size ≤ file.length) :
    file.slice offset size = List.ofFn fun i : Fin size => byteAt file (offset + i) := by
  apply List.ext_getElem?
  intro i
  by_cases hi : i < size
  · rw [getElem?_filled fits hi, List.getElem?_ofFn, dif_pos hi]
  · rw [Bytes.getElem?_slice, if_neg hi, List.getElem?_ofFn, dif_neg hi]

theorem hasDosSignature_iff_slice {file : Bytes} (fits : dosHeaderSize ≤ file.length) :
    HasDosSignature file ↔ file.slice 0 2 = [0x4D, 0x5A] := by
  simp only [dosHeaderSize] at fits
  rw [slice_eq_ofFn (by omega)]
  simp [HasDosSignature, List.ofFn_succ]

theorem hasPeSignature_iff_slice {file : Bytes}
    (fits : signatureOffset file + peHeaderSize ≤ file.length) :
    HasPeSignature file ↔ file.slice (signatureOffset file) 4 = [0x50, 0x45, 0, 0] := by
  simp only [peHeaderSize] at fits
  rw [slice_eq_ofFn (by omega)]
  simp [HasPeSignature, List.ofFn_succ]

theorem signatureOffset_lt (file : Bytes) : signatureOffset file < 2 ^ 32 := UInt32.toNat_lt _

theorem optionalSize_lt (file : Bytes) : optionalSize file < 2 ^ 16 := UInt16.toNat_lt _

/-- What the unguarded reading answers once the signature is found right. -/
def countedHeaders (file : Bytes) : Except FormatError (List SectionHeader) :=
  if sectionLimit < sectionCount file then .error (.tooManySections (sectionCount file))
  else
    (checkOptionalHeader file (signatureOffset file + peHeaderSize) (optionalSize file)).bind
      fun () => match readHeaders? file (tableOffset file) (sectionCount file) with
        | none => .error (.truncated .sectionTable)
        | some headers => .ok headers

theorem readSections?_eq {file : Bytes} (fits : signatureOffset file + peHeaderSize ≤ file.length) :
    readSections? file (file.slice (signatureOffset file + 4) 20) (signatureOffset file) =
      some (countedHeaders file) := by
  have hnear := signatureOffset_lt file
  have hsmall := optionalSize_lt file
  have hsize : peHeaderSize = 24 := rfl
  have hcoff : signatureOffset file + 4 + 20 ≤ file.length := fits
  have hcount : word16? (file.slice (signatureOffset file + 4) 20) 2 = _ :=
    word16?_filled hcoff (by decide)
  have hoptional : word16? (file.slice (signatureOffset file + 4) 20) 16 = _ :=
    word16?_filled hcoff (by decide)
  have hfirst : sum? (signatureOffset file) peHeaderSize = _ := sum?_of_lt (by omega)
  have hsecond : sum? (signatureOffset file + peHeaderSize) (optionalSize file) = _ :=
    sum?_of_lt (by omega)
  have hchecked : checkOptionalHeader? file (signatureOffset file + peHeaderSize)
      (optionalSize file) = _ := checkOptionalHeader?_eq (by omega) _
  have hcountField : (Bytes.word16 (byteAt file (signatureOffset file + 4 + 2))
    (byteAt file (signatureOffset file + 4 + 2 + 1))).toNat = sectionCount file := rfl
  have hoptionalField : (Bytes.word16 (byteAt file (signatureOffset file + 4 + 16))
    (byteAt file (signatureOffset file + 4 + 16 + 1))).toNat = optionalSize file := rfl
  simp only [readSections?, countedHeaders, hcount, hoptional, hcountField, hoptionalField,
    Option.bind_eq_bind, Option.bind_some]
  split
  next => rfl
  next hlimit =>
    simp only [hfirst, hchecked, Option.bind_some]
    cases checkOptionalHeader file (signatureOffset file + peHeaderSize) (optionalSize file) with
    | error e => rfl
    | ok _ =>
      simp only [hsecond, Option.bind_some]
      exact readTable?_eq (Nat.not_lt.mp hlimit) (by omega)

theorem readPeHeader?_eq (file : Bytes) :
    readPeHeader? file (signatureOffset file) =
      some (if file.readAt? (signatureOffset file) peHeaderSize = none then
          .error (.truncated .peHeader)
        else if ¬HasPeSignature file then .error (.noPeSignature (signatureOffset file))
        else countedHeaders file) := by
  have hlt := signatureOffset_lt file
  have hsize : peHeaderSize = 24 := rfl
  have hnear : signatureOffset file + peHeaderSize < 2 ^ 64 := by omega
  by_cases fits : signatureOffset file + peHeaderSize ≤ file.length
  · have hread := (exists_readAt?_iff (by decide)).mpr fits
    have hsignature : part? (file.slice (signatureOffset file) peHeaderSize) 0 4 =
        some (file.slice (signatureOffset file) 4) :=
      part?_filled fits (by decide) (by decide)
    have hcoff : part? (file.slice (signatureOffset file) peHeaderSize) 4
        (file.slice (signatureOffset file) peHeaderSize).length =
        some (file.slice (signatureOffset file + 4) 20) := by
      rw [Bytes.length_slice_of_le fits]
      exact part?_filled fits (by decide) (Nat.le_refl _)
    simp only [readPeHeader?, fill?_of_fits hnear (.inr fits), hsignature, hcoff,
      readSections?_eq fits, hasPeSignature_iff_slice fits, Option.bind_eq_bind, Option.bind_some,
      if_neg (Option.ne_none_iff_exists'.mpr hread)]
    split <;> rfl
  · have hshort := (readAt?_eq_none_iff (by decide)).mpr (Nat.not_le.mp fits)
    rw [readPeHeader?, fill?_of_short hnear (by omega), if_pos hshort]
    rfl

/-- By the stages of the reading: a test fails in both readings, or in none. -/
theorem sectionHeaders?_eq (file : Bytes) : sectionHeaders? file = some (sectionHeaders file) := by
  have hpointerField : (UInt32.ofNat (word32At file 60)).toNat = signatureOffset file := by
    rw [word32At, UInt32.ofNat_toNat]
    rfl
  rw [sectionHeaders_eq]
  by_cases fits : dosHeaderSize ≤ file.length
  · have hfits : 0 + dosHeaderSize ≤ file.length := by rwa [Nat.zero_add]
    have hread := (exists_readAt?_iff (by decide)).mpr hfits
    have hsignature : part? (file.slice 0 dosHeaderSize) 0 2 = some (file.slice 0 2) :=
      part?_filled hfits (by decide) (by decide)
    have hpointer : word32? (file.slice 0 dosHeaderSize) 60 = some (.ofNat (word32At file (0 + 60))) :=
      word32?_filled hfits (by decide)
    rw [Nat.zero_add] at hpointer
    simp only [sectionHeaders?, fill?_of_fits (by decide) (.inr hfits), hsignature, hpointer,
      hpointerField, readPeHeader?_eq, hasDosSignature_iff_slice fits, Option.bind_eq_bind,
      Option.bind_some, if_neg (Option.ne_none_iff_exists'.mpr hread)]
    split <;> rfl
  · have hshort : file.readAt? 0 dosHeaderSize = none :=
      (readAt?_eq_none_iff (by decide)).mpr (by omega)
    rw [sectionHeaders?, fill?_of_short (by decide) (by simp [dosHeaderSize] at fits ⊢; omega),
      if_pos hshort]
    rfl

theorem checkBounds?_eq (h : SectionHeader) (payload : Payload) (fileSize : Nat) :
    checkBounds? h payload fileSize = some (h.checkBounds payload fileSize) := by
  have hoffset := h.rawOffset.toNat_lt
  have hvirtual := h.virtualSize.toNat_lt
  have hraw := h.rawSize.toNat_lt
  have hsum : sum? h.offset h.payloadSize = some h.finish := by
    apply sum?_of_lt
    unfold SectionHeader.offset SectionHeader.payloadSize
    split <;> omega
  simp only [checkBounds?, hsum, Option.bind_eq_bind, Option.bind_some]
  rfl

end Guarded

/-! ### The grammar -/

theorem forall_mem_conditions_iff (file : Bytes) :
    (∀ c ∈ conditions file, c.1 = true) ↔
      dosHeaderSize ≤ file.length ∧ HasDosSignature file ∧
      signatureOffset file + peHeaderSize ≤ file.length ∧ HasPeSignature file ∧
      sectionCount file ≤ sectionLimit ∧
      (optionalSize file < 2 ∨ signatureOffset file + peHeaderSize + 2 ≤ file.length ∧
        (magicNumber file = 0x10b ∨ magicNumber file = 0x20b)) ∧
      (sectionCount file = 0 ∨ tableEnd file ≤ file.length) := by
  simp only [conditions, List.forall_mem_cons, List.not_mem_nil, false_imp_iff, implies_true,
    and_true, decide_eq_true_eq]
  rw [or_and_left, and_assoc]

/-- A section table is read exactly from a file that meets all conditions, with each header from its
own forty bytes; else the answer is the error of the first condition that fails. No sum that this takes
leaves 64 bits, and no index its buffer. -/
theorem sectionHeaders_grammar (file : Bytes) :
    ((∃ headers, sectionHeaders file = .ok headers) ↔
      dosHeaderSize ≤ file.length ∧ HasDosSignature file ∧
      signatureOffset file + peHeaderSize ≤ file.length ∧ HasPeSignature file ∧
      sectionCount file ≤ sectionLimit ∧
      (optionalSize file < 2 ∨ signatureOffset file + peHeaderSize + 2 ≤ file.length ∧
        (magicNumber file = 0x10b ∨ magicNumber file = 0x20b)) ∧
      (sectionCount file = 0 ∨ tableEnd file ≤ file.length)) ∧
    (∀ headers, sectionHeaders file = .ok headers → headers.length = sectionCount file ∧
      ∀ i < sectionCount file,
        headers[i]? = some (headerAt file (tableOffset file + SectionHeader.size * i))) ∧
    (∀ e, sectionHeaders file = .error e ↔ ∃ before after,
      conditions file = before ++ (false, e) :: after ∧ ∀ c ∈ before, c.1 = true) ∧
    Guarded.sectionHeaders? file = some (sectionHeaders file) ∧
    ∀ (h : SectionHeader) payload fileSize,
      Guarded.checkBounds? h payload fileSize = some (h.checkBounds payload fileSize) := by
  refine ⟨?_, ?_, ?_, Guarded.sectionHeaders?_eq file, Guarded.checkBounds?_eq⟩
  · rw [← forall_mem_conditions_iff, sectionHeaders_eq_judge]
    constructor
    · rintro ⟨headers, h⟩
      exact (judge_eq_ok_iff.mp h).2
    · intro h
      exact ⟨_, judge_eq_ok_iff.mpr ⟨rfl, h⟩⟩
  · intro headers h
    rw [sectionHeaders_eq_judge, judge_eq_ok_iff] at h
    obtain ⟨rfl, -⟩ := h
    refine ⟨by simp [storedHeaders], fun i hi => ?_⟩
    rw [storedHeaders, List.getElem?_map, List.getElem?_range hi, Option.map_some]
  · intro e
    rw [sectionHeaders_eq_judge, judge_eq_error_iff]

/-- The PE header may lie in the DOS header, and there may be no sections. -/
example : sectionHeaders ([0x4D, 0x5A] ++ List.replicate 34 0 ++ [0x50, 0x45] ++
    List.replicate 22 0 ++ [36, 0, 0, 0]) = .ok [] := by
  rfl

end NextBoot.Image
