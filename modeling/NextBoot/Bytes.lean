/-! Byte strings: little-endian words, reads that must be complete, and writes in place. -/
namespace NextBoot

abbrev Bytes := List UInt8

namespace Bytes

def ofWord16 (w : UInt16) : Bytes :=
  [UInt8.ofNat w.toNat, UInt8.ofNat (w.toNat / 256)]

def ofWord32 (w : UInt32) : Bytes :=
  [UInt8.ofNat w.toNat, UInt8.ofNat (w.toNat / 256), UInt8.ofNat (w.toNat / 65536),
    UInt8.ofNat (w.toNat / 16777216)]

/-- The word whose low byte comes first. -/
def word16 (b₀ b₁ : UInt8) : UInt16 :=
  UInt16.ofNat (b₀.toNat + 256 * b₁.toNat)

/-- The word whose bytes come lowest first. -/
def word32 (b₀ b₁ b₂ b₃ : UInt8) : UInt32 :=
  UInt32.ofNat (b₀.toNat + 256 * b₁.toNat + 65536 * b₂.toNat + 16777216 * b₃.toNat)

theorem word16_ofWord16 (w : UInt16) :
    word16 (UInt8.ofNat w.toNat) (UInt8.ofNat (w.toNat / 256)) = w := by
  apply UInt16.toNat_inj.mp
  have h := w.toNat_lt
  simp only [word16, UInt16.toNat_ofNat', UInt8.toNat_ofNat']
  omega

theorem word32_ofWord32 (w : UInt32) :
    word32 (UInt8.ofNat w.toNat) (UInt8.ofNat (w.toNat / 256)) (UInt8.ofNat (w.toNat / 65536))
      (UInt8.ofNat (w.toNat / 16777216)) = w := by
  apply UInt32.toNat_inj.mp
  have h := w.toNat_lt
  simp only [word32, UInt32.toNat_ofNat', UInt8.toNat_ofNat']
  omega

theorem ofWord16_word16 (b₀ b₁ : UInt8) : ofWord16 (word16 b₀ b₁) = [b₀, b₁] := by
  have h₀ := b₀.toNat_lt
  have h₁ := b₁.toNat_lt
  simp only [ofWord16, word16, UInt16.toNat_ofNat', List.cons.injEq, and_true]
  constructor <;> apply UInt8.toNat_inj.mp <;> simp only [UInt8.toNat_ofNat'] <;> omega

theorem ofWord32_word32 (b₀ b₁ b₂ b₃ : UInt8) :
    ofWord32 (word32 b₀ b₁ b₂ b₃) = [b₀, b₁, b₂, b₃] := by
  have h₀ := b₀.toNat_lt
  have h₁ := b₁.toNat_lt
  have h₂ := b₂.toNat_lt
  have h₃ := b₃.toNat_lt
  simp only [ofWord32, word32, UInt32.toNat_ofNat', List.cons.injEq, and_true]
  refine ⟨?_, ?_, ?_, ?_⟩ <;> apply UInt8.toNat_inj.mp <;> simp only [UInt8.toNat_ofNat'] <;> omega

/-- Exactly `size` bytes from `offset` on, or nothing if the content ends before them. No bytes at
all can be read at any offset. -/
def readAt? (content : Bytes) (offset size : Nat) : Option (Vector UInt8 size) :=
  let part := (content.drop offset).take size
  if h : part.length = size then some ⟨part.toArray, by simpa using h⟩ else none

/-- The bytes from `offset` on, `size` of them or as many as there are. -/
def slice (content : Bytes) (offset size : Nat) : Bytes :=
  (content.drop offset).take size

/-- The content with `data` written at `offset`. A gap before `offset` is filled with zeros; writing
nothing changes nothing. -/
def writeAt (content : Bytes) (offset : Nat) (data : Bytes) : Bytes :=
  if data.isEmpty then content
  else content.take offset ++ List.replicate (offset - content.length) 0 ++ data ++
    content.drop (offset + data.length)

def dropTrailingZeros (b : Bytes) : Bytes :=
  (b.reverse.dropWhile (· == 0)).reverse

/-- The bytes followed by zeros up to `size`. -/
def padTo (size : Nat) (b : Bytes) : Bytes :=
  b ++ List.replicate (size - b.length) 0

end Bytes

end NextBoot
