import NextBoot.Firmware.LoadOption
import NextBoot.Proofs.ByteWindow
import NextBoot.Proofs.Text.SurrogatePairs

/-! The format of load options. What is decoded is what was written, whatever the length bytes and the
bytes of the device path are; and a byte string that is no load option has one of three faults. -/
namespace NextBoot.Firmware.LoadOption

open Text (nul)
open Text.Utf16 (WellFormed)

/-- The whole units of a byte string; a byte that is left over at its end is in none. -/
def units : Bytes → List UInt16
  | b₀ :: b₁ :: rest => Bytes.word16 b₀ b₁ :: units rest
  | _ => []

/-- The unit at this place is zero: only pairs that begin at an even offset count. -/
def ZeroUnitAt (b : Bytes) (i : Nat) : Prop := b[2 * i]? = some 0 ∧ b[2 * i + 1]? = some 0

structure FirstZeroUnit (b : Bytes) (n : Nat) : Prop where
  zero : ZeroUnitAt b n
  before : ∀ i < n, ¬ZeroUnitAt b i

/-- What is wrong with a byte string that is no load option. -/
inductive Fault (raw : Bytes) : Malformed → Prop
  | tooShort (short : raw.length < headerSize) : Fault raw (.tooShort raw.length)
  | unterminated (header : headerSize ≤ raw.length)
      (endless : ∀ i, ¬ZeroUnitAt (raw.drop headerSize) i) : Fault raw .unterminated
  | illFormed (header : headerSize ≤ raw.length) {n : Nat}
      (terminator : FirstZeroUnit (raw.drop headerSize) n)
      (ill : ¬WellFormed (units (raw.slice headerSize (2 * n)))) : Fault raw .illFormed

/-! ### Units -/

theorem word16_eq_zero_iff (b₀ b₁ : UInt8) : Bytes.word16 b₀ b₁ = 0 ↔ b₀ = 0 ∧ b₁ = 0 := by
  constructor
  · intro h
    have hbytes := Bytes.ofWord16_word16 b₀ b₁
    rw [h] at hbytes
    simpa [Bytes.ofWord16, eq_comm] using hbytes
  · rintro ⟨rfl, rfl⟩
    rfl

theorem zeroUnitAt_zero_iff {b₀ b₁ : UInt8} {rest : Bytes} :
    ZeroUnitAt (b₀ :: b₁ :: rest) 0 ↔ Bytes.word16 b₀ b₁ = 0 := by
  rw [word16_eq_zero_iff]
  simp [ZeroUnitAt]

theorem zeroUnitAt_succ_iff {b₀ b₁ : UInt8} {rest : Bytes} {i : Nat} :
    ZeroUnitAt (b₀ :: b₁ :: rest) (i + 1) ↔ ZeroUnitAt rest i := by
  simp only [ZeroUnitAt, Nat.mul_succ, List.getElem?_cons_succ]

theorem firstZeroUnit_zero {b₀ b₁ : UInt8} (rest : Bytes) (h : Bytes.word16 b₀ b₁ = 0) :
    FirstZeroUnit (b₀ :: b₁ :: rest) 0 :=
  ⟨zeroUnitAt_zero_iff.mpr h, nofun⟩

theorem FirstZeroUnit.succ {b₀ b₁ : UInt8} {rest : Bytes} {n : Nat} (first : FirstZeroUnit rest n)
    (h : Bytes.word16 b₀ b₁ ≠ 0) : FirstZeroUnit (b₀ :: b₁ :: rest) (n + 1) where
  zero := zeroUnitAt_succ_iff.mpr first.zero
  before i hi := by
    cases i with
    | zero => rwa [zeroUnitAt_zero_iff]
    | succ i =>
      rw [zeroUnitAt_succ_iff]
      exact first.before i (by omega)

theorem FirstZeroUnit.unique {b : Bytes} {n n' : Nat} (first : FirstZeroUnit b n)
    (first' : FirstZeroUnit b n') : n = n' := by
  rcases Nat.lt_trichotomy n n' with hlt | rfl | hgt
  · exact absurd first.zero (first'.before n hlt)
  · rfl
  · exact absurd first'.zero (first.before n' hgt)

/-! ### The description and what is behind it -/

theorem splitDescription?_of_zero {b₀ b₁ : UInt8} (rest : Bytes) (h : Bytes.word16 b₀ b₁ = 0) :
    splitDescription? (b₀ :: b₁ :: rest) = some ([], rest) := by
  rw [splitDescription?]
  exact if_pos h

theorem splitDescription?_of_ne_zero {b₀ b₁ : UInt8} (rest : Bytes) (h : Bytes.word16 b₀ b₁ ≠ 0) :
    splitDescription? (b₀ :: b₁ :: rest) =
      (splitDescription? rest).map fun (ws, after) => (Bytes.word16 b₀ b₁ :: ws, after) := by
  rw [splitDescription?]
  exact if_neg h

/-- By induction on the units before the first that is zero. -/
theorem splitDescription?_flatMap {ws : List UInt16} (nonzero : 0 ∉ ws) (after : Bytes) :
    splitDescription? (ws.flatMap Bytes.ofWord16 ++ 0 :: 0 :: after) = some (ws, after) := by
  induction ws with
  | nil => rfl
  | cons w ws ih =>
    rw [List.mem_cons, not_or] at nonzero
    have hw : Bytes.word16 (UInt8.ofNat w.toNat) (UInt8.ofNat (w.toNat / 256)) ≠ 0 := by
      rw [Bytes.word16_ofWord16]
      exact Ne.symm nonzero.1
    have hsplit := splitDescription?_of_ne_zero (ws.flatMap Bytes.ofWord16 ++ 0 :: 0 :: after) hw
    rw [ih nonzero.2, Bytes.word16_ofWord16] at hsplit
    exact hsplit

/-- The description in these bytes ends with their first zero unit, of which there are `n` others in
front, and `after` is what is behind it. -/
structure Described (b : Bytes) (n : Nat) (ws : List UInt16) (after : Bytes) : Prop where
  terminator : FirstZeroUnit b n
  before : units (b.take (2 * n)) = ws
  nonzero : 0 ∉ ws
  parts : b = ws.flatMap Bytes.ofWord16 ++ 0 :: 0 :: after

theorem described_nil {b₀ b₁ : UInt8} (rest : Bytes) (h : Bytes.word16 b₀ b₁ = 0) :
    Described (b₀ :: b₁ :: rest) 0 [] rest where
  terminator := firstZeroUnit_zero rest h
  before := rfl
  nonzero := List.not_mem_nil
  parts := by
    obtain ⟨rfl, rfl⟩ := (word16_eq_zero_iff b₀ b₁).mp h
    rfl

theorem Described.cons {b₀ b₁ : UInt8} {rest after : Bytes} {n : Nat} {ws : List UInt16}
    (described : Described rest n ws after) (h : Bytes.word16 b₀ b₁ ≠ 0) :
    Described (b₀ :: b₁ :: rest) (n + 1) (Bytes.word16 b₀ b₁ :: ws) after where
  terminator := described.terminator.succ h
  before := by
    rw [← described.before]
    rfl
  nonzero := by
    rw [List.mem_cons, not_or]
    exact ⟨Ne.symm h, described.nonzero⟩
  parts := by
    rw [List.flatMap_cons, Bytes.ofWord16_word16, List.append_assoc, ← described.parts]
    rfl

/-- By induction on the units: the first that is zero ends the description, and where none is zero
no description ends. -/
theorem splitDescription?_cases (b : Bytes) :
    (∃ n ws after, Described b n ws after ∧ splitDescription? b = some (ws, after)) ∨
    (∀ i, ¬ZeroUnitAt b i) ∧ splitDescription? b = none := by
  induction b using splitDescription?.induct with
  | case1 b₀ b₁ rest unit hzero =>
    exact .inl ⟨0, [], rest, described_nil rest hzero, splitDescription?_of_zero rest hzero⟩
  | case2 b₀ b₁ rest unit hzero ih =>
    rw [splitDescription?_of_ne_zero rest hzero]
    rcases ih with ⟨n, ws, after, described, hsplit⟩ | ⟨endless, hsplit⟩
    · refine .inl ⟨n + 1, unit :: ws, after, described.cons hzero, ?_⟩
      rw [hsplit, Option.map_some]
    · refine .inr ⟨fun i => ?_, by rw [hsplit, Option.map_none]⟩
      cases i with
      | zero => rwa [zeroUnitAt_zero_iff]
      | succ i =>
        rw [zeroUnitAt_succ_iff]
        exact endless i
  | case3 b hshort =>
    refine .inr ⟨?_, ?_⟩
    · intro i hi
      match b, hshort, hi with
      | [], _, hi => simp [ZeroUnitAt] at hi
      | [_], _, hi => simp [ZeroUnitAt] at hi
      | b₀ :: b₁ :: rest, hshort, _ => exact hshort b₀ b₁ rest rfl
    · rw [splitDescription?]
      exact hshort

/-! ### The whole option -/

theorem exists_header {raw : Bytes} (h : headerSize ≤ raw.length) :
    ∃ b₀ b₁ b₂ b₃ b₄ b₅ rest, raw = b₀ :: b₁ :: b₂ :: b₃ :: b₄ :: b₅ :: rest := by
  match raw, h with
  | b₀ :: b₁ :: b₂ :: b₃ :: b₄ :: b₅ :: rest, _ => exact ⟨b₀, b₁, b₂, b₃, b₄, b₅, rest, rfl⟩

theorem decode_of_short {raw : Bytes} (h : raw.length < headerSize) :
    decode raw = .error (.tooShort raw.length) := by
  match raw, h with
  | [], _ | [_], _ | [_, _], _ | [_, _, _], _ | [_, _, _, _], _ | [_, _, _, _, _], _ => rfl

/-- A header, a description that ends, and a device path, each read as what it was written from. -/
theorem decode_written (attributes : UInt32) (b₄ b₅ : UInt8) {description : String}
    (noNul : nul ∉ description.toList) (devicePath : Bytes) :
    decode (Bytes.ofWord32 attributes ++ [b₄, b₅] ++
      (Text.Utf16.encode description).flatMap Bytes.ofWord16 ++ [0, 0] ++ devicePath) =
      .ok ⟨attributes, description, devicePath⟩ := by
  have nonzero : 0 ∉ Text.Utf16.encode description := by
    rwa [Text.Utf16.zero_mem_encode_iff]
  simp only [Bytes.ofWord32, List.cons_append, List.nil_append, List.append_assoc, decode,
    splitDescription?_flatMap nonzero devicePath, Text.Utf16.decode?_encode,
    Bytes.word32_ofWord32]

theorem Fault.unique {raw : Bytes} {e e' : Malformed} (fault : Fault raw e) (fault' : Fault raw e') :
    e = e' := by
  cases fault with
  | tooShort short =>
    cases fault' with
    | tooShort _ => rfl
    | unterminated header _ => omega
    | illFormed header _ _ => omega
  | unterminated header endless =>
    cases fault' with
    | tooShort short => omega
    | unterminated _ _ => rfl
    | illFormed _ terminator _ => exact absurd terminator.zero (endless _)
  | illFormed header terminator _ =>
    cases fault' with
    | tooShort short => omega
    | unterminated _ endless => exact absurd terminator.zero (endless _)
    | illFormed _ _ _ => rfl

theorem not_fault_of_wellFormed {raw : Bytes} {n : Nat} (header : headerSize ≤ raw.length)
    (terminator : FirstZeroUnit (raw.drop headerSize) n)
    (well : WellFormed (units (raw.slice headerSize (2 * n)))) (e : Malformed) : ¬Fault raw e := by
  rintro (short | ⟨-, endless⟩ | @⟨-, n', terminator', ill⟩)
  · omega
  · exact endless n terminator.zero
  · obtain rfl := terminator.unique terminator'
    exact ill well

/-- Decoding either reads what the bytes were written from, or names their fault. -/
theorem decode_cases (raw : Bytes) :
    (∃ o, decode raw = .ok o ∧ nul ∉ o.description.toList ∧
      raw = Bytes.ofWord32 o.attributes ++ raw.slice 4 2 ++
        (Text.Utf16.encode o.description).flatMap Bytes.ofWord16 ++ [0, 0] ++ o.devicePath ∧
      ∀ e, ¬Fault raw e) ∨
    ∃ e, decode raw = .error e ∧ Fault raw e := by
  rcases Nat.lt_or_ge raw.length headerSize with hshort | header
  · exact .inr ⟨_, decode_of_short hshort, .tooShort hshort⟩
  obtain ⟨b₀, b₁, b₂, b₃, b₄, b₅, rest, rfl⟩ := exists_header header
  have hslice (n : Nat) :
      Bytes.slice (b₀ :: b₁ :: b₂ :: b₃ :: b₄ :: b₅ :: rest) headerSize n = rest.take n := rfl
  rcases splitDescription?_cases rest with ⟨n, ws, after, described, hsplit⟩ | ⟨endless, hsplit⟩
  · have before := described.before
    rw [← hslice] at before
    cases hdecode : Text.Utf16.decode? ws with
    | none =>
      have ill : ¬WellFormed ws := Text.Utf16.decode?_eq_none_iff.mp hdecode
      rw [← before] at ill
      refine .inr ⟨.illFormed, ?_, .illFormed header described.terminator ill⟩
      simp only [decode, hsplit, hdecode]
    | some description =>
      obtain rfl := Text.Utf16.decode?_eq_some_iff.mp hdecode
      have nonzero := described.nonzero
      have well := Text.Utf16.wellFormed_encode description
      rw [Text.Utf16.zero_mem_encode_iff] at nonzero
      rw [← before] at well
      refine .inl ⟨⟨Bytes.word32 b₀ b₁ b₂ b₃, description, after⟩, ?_, nonzero, ?_,
        not_fault_of_wellFormed header described.terminator well⟩
      · simp only [decode, hsplit, hdecode]
      · rw [Bytes.ofWord32_word32]
        simpa [Bytes.slice] using described.parts
  · refine .inr ⟨.unterminated, ?_, .unterminated header endless⟩
    simp only [decode, hsplit]

theorem eq_written_of_decode {raw : Bytes} {o : LoadOption} (h : decode raw = .ok o) :
    nul ∉ o.description.toList ∧
      raw = Bytes.ofWord32 o.attributes ++ raw.slice 4 2 ++
        (Text.Utf16.encode o.description).flatMap Bytes.ofWord16 ++ [0, 0] ++ o.devicePath := by
  rcases decode_cases raw with ⟨o', hdecode, noNul, hraw, -⟩ | ⟨e, hdecode, -⟩
  · obtain rfl : o' = o := Except.ok.inj (hdecode.symm.trans h)
    exact ⟨noNul, hraw⟩
  · rw [hdecode] at h
    cases h

theorem decode_eq_error_iff {raw : Bytes} {e : Malformed} :
    decode raw = .error e ↔ Fault raw e := by
  rcases decode_cases raw with ⟨o, hdecode, -, -, sound⟩ | ⟨e', hdecode, fault⟩
  · rw [hdecode]
    exact ⟨nofun, fun fault => absurd fault (sound e)⟩
  · rw [hdecode]
    constructor
    · intro h
      obtain rfl := Except.error.inj h
      exact fault
    · intro fault'
      rw [fault.unique fault']

/-- Decoding gives back what was written as attributes, two length bytes that say nothing, a
description without the NUL, its end and a device path; it gives nothing else, and it refuses a byte
string exactly for its fault. -/
theorem decode_format :
    (∀ (attributes : UInt32) (b₄ b₅ : UInt8) (description : String) (devicePath : Bytes),
      nul ∉ description.toList →
      decode (Bytes.ofWord32 attributes ++ [b₄, b₅] ++
        (Text.Utf16.encode description).flatMap Bytes.ofWord16 ++ [0, 0] ++ devicePath) =
        .ok ⟨attributes, description, devicePath⟩) ∧
    ∀ raw,
      (∀ o, decode raw = .ok o → nul ∉ o.description.toList ∧
        raw = Bytes.ofWord32 o.attributes ++ raw.slice 4 2 ++
          (Text.Utf16.encode o.description).flatMap Bytes.ofWord16 ++ [0, 0] ++ o.devicePath) ∧
      ∀ e, decode raw = .error e ↔ Fault raw e := by
  refine ⟨?_, fun raw => ⟨?_, ?_⟩⟩
  · intro attributes b₄ b₅ description devicePath noNul
    exact decode_written attributes b₄ b₅ noNul devicePath
  · intro o h
    exact eq_written_of_decode h
  · intro e
    exact decode_eq_error_iff

/-- Two zero bytes that lie across two units end nothing, and a byte left over is in the device path. -/
example : decode [1, 0, 0, 0, 9, 9, 0x61, 0, 0, 0x62, 0x3D, 0xD8, 0x00, 0xDE, 0, 0, 7] =
    .ok ⟨1, "a戀😀", [7]⟩ := by
  decide +kernel

end NextBoot.Firmware.LoadOption
