import NextBoot.Bytes
import NextBoot.Image.Error
import NextBoot.Text.Utf8

/-! The section table of a PE image. Nothing is mapped or relocated: all that matters is where each
named section lies in the file and how many of its bytes are payload. -/
namespace NextBoot.Image

structure SectionHeader where
  label : Vector UInt8 8
  virtualSize : UInt32
  rawSize : UInt32
  rawOffset : UInt32
  deriving DecidableEq, Repr

namespace SectionHeader

def size : Nat := 40

def ofBytes (b : Vector UInt8 size) : SectionHeader where
  label := #v[b[0], b[1], b[2], b[3], b[4], b[5], b[6], b[7]]
  virtualSize := Bytes.word32 b[8] b[9] b[10] b[11]
  rawSize := Bytes.word32 b[16] b[17] b[18] b[19]
  rawOffset := Bytes.word32 b[20] b[21] b[22] b[23]

def name (h : SectionHeader) : Bytes := Bytes.dropTrailingZeros h.label.toList

def offset (h : SectionHeader) : Nat := h.rawOffset.toNat

/-- The bytes of real content. The size in the file is rounded up, so it counts only where no size
in memory is given, and otherwise as an upper bound. -/
def payloadSize (h : SectionHeader) : Nat :=
  if h.virtualSize = 0 then h.rawSize.toNat else min h.virtualSize.toNat h.rawSize.toNat

def finish (h : SectionHeader) : Nat := h.offset + h.payloadSize

/-- The payload that a section of this name holds. -/
def payload? (h : SectionHeader) : Option Payload :=
  Payload.all.find? fun p => Text.Utf8.encode p.sectionName = h.name

def checkBounds (h : SectionHeader) (payload : Payload) (fileSize : Nat) :
    Except FormatError Unit :=
  if fileSize < h.finish then .error (.outOfBounds payload h.finish fileSize) else .ok ()

end SectionHeader

def dosHeaderSize : Nat := 64

/-- The signature and the file header after it. -/
def peHeaderSize : Nat := 24

def sectionLimit : Nat := 96

/-- Consecutive section headers, if the file holds all of them. -/
def readHeaders? (file : Bytes) (offset : Nat) : Nat → Option (List SectionHeader)
  | 0 => some []
  | count + 1 => do
    let header ← file.readAt? offset SectionHeader.size
    let rest ← readHeaders? file (offset + SectionHeader.size) count
    return SectionHeader.ofBytes header :: rest

/-- An optional header too small for its magic number is passed over. -/
def checkOptionalHeader (file : Bytes) (offset size : Nat) : Except FormatError Unit :=
  if size < 2 then .ok ()
  else match file.readAt? offset 2 with
    | none => .error (.truncated .optionalHeader)
    | some b =>
      let magic := (Bytes.word16 b[0] b[1]).toNat
      if magic = 0x10b ∨ magic = 0x20b then .ok () else .error (.unknownMagic magic)

/-- The headers of all sections, in the order of the file. -/
def sectionHeaders (file : Bytes) : Except FormatError (List SectionHeader) :=
  match file.readAt? 0 dosHeaderSize with
  | none => .error (.truncated .dosHeader)
  | some dos =>
    if ¬(dos[0] = 0x4D ∧ dos[1] = 0x5A) then .error .noDosSignature
    else
      let peOffset := (Bytes.word32 dos[60] dos[61] dos[62] dos[63]).toNat
      match file.readAt? peOffset peHeaderSize with
      | none => .error (.truncated .peHeader)
      | some pe =>
        if ¬(pe[0] = 0x50 ∧ pe[1] = 0x45 ∧ pe[2] = 0 ∧ pe[3] = 0) then
          .error (.noPeSignature peOffset)
        else
          let count := (Bytes.word16 pe[6] pe[7]).toNat
          let optionalSize := (Bytes.word16 pe[20] pe[21]).toNat
          let optionalOffset := peOffset + peHeaderSize
          if sectionLimit < count then .error (.tooManySections count)
          else do
            checkOptionalHeader file optionalOffset optionalSize
            match readHeaders? file (optionalOffset + optionalSize) count with
            | none => .error (.truncated .sectionTable)
            | some headers => .ok headers

end NextBoot.Image
