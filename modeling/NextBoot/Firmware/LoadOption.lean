import NextBoot.Bytes
import NextBoot.Text.Utf16

/-! Load options: what a boot variable says about one thing to boot. -/
namespace NextBoot.Firmware

structure LoadOption where
  attributes : UInt32
  description : String
  /-- Everything after the description, as it is. -/
  devicePath : Bytes
  deriving DecidableEq, Repr

namespace LoadOption

inductive Malformed where
  | tooShort (size : Nat)
  | unterminated
  | illFormed
  deriving DecidableEq, Repr

/-- The attributes, and the length of the device path. -/
def headerSize : Nat := 6

def Malformed.message : Malformed → String
  | tooShort size =>
    "minimum " ++ toString headerSize ++ " bytes are required, got " ++ toString size
  | unterminated => "no null code point marking end of description found"
  | illFormed => "decoding description: invalid utf-16: lone surrogate found"

/-- The units before the first zero unit, and the bytes after it. -/
def splitDescription? : Bytes → Option (List UInt16 × Bytes)
  | b₀ :: b₁ :: rest =>
    let unit := Bytes.word16 b₀ b₁
    if unit = 0 then some ([], rest)
    else (splitDescription? rest).map fun (units, after) => (unit :: units, after)
  | _ => none

def decode (raw : Bytes) : Except Malformed LoadOption :=
  match raw with
  | b₀ :: b₁ :: b₂ :: b₃ :: _ :: _ :: rest =>
    match splitDescription? rest with
    | none => .error .unterminated
    | some (units, devicePath) =>
      match Text.Utf16.decode? units with
      | none => .error .illFormed
      | some description => .ok ⟨Bytes.word32 b₀ b₁ b₂ b₃, description, devicePath⟩
  | short => .error (.tooShort short.length)

/-- The bytes of an option; the two length bytes say nothing that decoding needs. -/
def encode (o : LoadOption) (length : UInt16) : Bytes :=
  Bytes.ofWord32 o.attributes ++ Bytes.ofWord16 length ++
    (Text.Utf16.encode o.description ++ [0]).flatMap Bytes.ofWord16 ++ o.devicePath

end LoadOption

end NextBoot.Firmware
