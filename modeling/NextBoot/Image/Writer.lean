import NextBoot.Bytes

/-! Writing an image: headers, a section table, and the payloads in order. -/
namespace NextBoot.Image

/-- A section to write: a name of at most eight bytes, and the payload. -/
structure NewSection where
  name : Bytes
  payload : Bytes
  deriving DecidableEq, Repr

/-- The least multiple of `alignment` from `n` on. -/
def alignUp (alignment n : Nat) : Nat := (n + alignment - 1) / alignment * alignment

/-- The signature, zeros, and the offset of what follows. -/
def newDosHeader : Bytes :=
  [0x4D, 0x5A] ++ List.replicate 58 0 ++ Bytes.ofWord32 64

def newPeHeader (count : Nat) : Bytes :=
  [0x50, 0x45, 0, 0] ++ Bytes.ofWord16 0x8664 ++ Bytes.ofWord16 (UInt16.ofNat count) ++
    List.replicate 12 0 ++ Bytes.ofWord16 112 ++ Bytes.ofWord16 0x22

def newOptionalHeader : Bytes := Bytes.ofWord16 0x20b ++ List.replicate 110 0

def newSectionHeader (alignment offset : Nat) (s : NewSection) : Bytes :=
  s.name.padTo 8 ++ Bytes.ofWord32 (UInt32.ofNat s.payload.length) ++
    Bytes.ofWord32 (UInt32.ofNat offset) ++
    Bytes.ofWord32 (UInt32.ofNat (alignUp alignment s.payload.length)) ++
    Bytes.ofWord32 (UInt32.ofNat offset) ++ List.replicate 16 0

/-- The section table of payloads that lie one after the other from `offset` on. -/
def newSectionTable (alignment : Nat) : (offset : Nat) → List NewSection → Bytes
  | _, [] => []
  | offset, s :: rest =>
    newSectionHeader alignment offset s ++
      newSectionTable alignment (offset + alignUp alignment s.payload.length) rest

/-- A payload filled up to the alignment. -/
def paddedPayload (alignment : Nat) (padding : UInt8) (s : NewSection) : Bytes :=
  s.payload ++ List.replicate (alignUp alignment s.payload.length - s.payload.length) padding

def newHeaderSize (count : Nat) : Nat := 64 + 24 + 112 + 40 * count

/-- An image with these sections, each aligned and filled up with `padding`. -/
def newImage (alignment : Nat) (padding : UInt8) (sections : List NewSection) : Bytes :=
  let start := alignUp alignment (newHeaderSize sections.length)
  (newDosHeader ++ newPeHeader sections.length ++ newOptionalHeader ++
    newSectionTable alignment start sections).padTo start ++
    sections.flatMap (paddedPayload alignment padding)

end NextBoot.Image
