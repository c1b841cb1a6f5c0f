import NextBoot.Firmware.LoadOption
import NextBoot.Firmware.VariableStore

/-! The order in which firmware tries its boot entries. -/
namespace NextBoot.Firmware

inductive BootError where
  | malformedOrder (size : Nat)
  | malformedOption (cause : LoadOption.Malformed)
  | entryNotFound (description : String)
  | store (cause : StoreError)
  deriving DecidableEq, Repr

namespace BootError

def message : BootError → String
  | malformedOrder size => "malformed BootOrder: odd length of " ++ toString size ++ " bytes"
  | malformedOption cause => "malformed load option: " ++ cause.message
  | entryNotFound description =>
    "no boot entry with description " ++ Text.quoted description ++ " found"
  | store cause => cause.message

def cause? : BootError → Option IoError
  | store cause => cause.cause?
  | _ => none

/-- The message with the failure behind it. -/
def chain : BootError → String
  | store cause => cause.chain
  | e => e.message

end BootError

structure BootOrder where
  indices : List UInt16
  deriving DecidableEq, Repr

namespace BootOrder

def variableName : String := "BootOrder"

def empty : BootOrder := ⟨[]⟩

def encode (order : BootOrder) : Bytes := order.indices.flatMap Bytes.ofWord16

def decodeWords? : Bytes → Option (List UInt16)
  | [] => some []
  | [_] => none
  | b₀ :: b₁ :: rest => (decodeWords? rest).map (Bytes.word16 b₀ b₁ :: ·)

def decode (raw : Bytes) : Except BootError BootOrder :=
  match decodeWords? raw with
  | some indices => .ok ⟨indices⟩
  | none => .error (.malformedOrder raw.length)

/-- Four upper case digits for each index, separated by commas. -/
def text (order : BootOrder) : String :=
  ",".intercalate (order.indices.map fun i => String.ofList (Text.hexPadded .upper 4 i.toNat))

/-- A store without the variable has the empty order. -/
def read (s : VariableStore) : Except BootError BootOrder :=
  match s.read .globalVariable variableName with
  | .ok (raw, _) => decode raw
  | .error (.notFound _) => .ok empty
  | .error e => .error (.store e)

def attributes : Attributes := Attributes.nonVolatile.union .runtimeAccess

def write (order : BootOrder) (s : VariableStore) :
    Logged (Except StoreError Unit × VariableStore) :=
  s.write .globalVariable variableName attributes order.encode

/-- `index` first, then the old order without the stale indices. -/
def promoted (order : BootOrder) (index : UInt16) (stale : List UInt16) : BootOrder :=
  ⟨index :: order.indices.filter (· ∉ stale)⟩

end BootOrder

end NextBoot.Firmware
