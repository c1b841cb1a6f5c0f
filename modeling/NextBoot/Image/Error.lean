import NextBoot.Failure
import NextBoot.Text.Number

/-! Why an image cannot be read or patched. -/
namespace NextBoot.Image

inductive HeaderPart where
  | dosHeader
  | peHeader
  | optionalHeader
  | sectionTable
  deriving DecidableEq, Repr

def HeaderPart.name : HeaderPart → String
  | dosHeader => "DOS header"
  | peHeader => "PE header"
  | optionalHeader => "optional header"
  | sectionTable => "section table"

inductive FormatError where
  | truncated (part : HeaderPart)
  | noDosSignature
  | noPeSignature (offset : Nat)
  | tooManySections (count : Nat)
  | unknownMagic (magic : Nat)
  | outOfBounds (payload : Payload) (finish fileSize : Nat)
  deriving DecidableEq, Repr

def FormatError.message : FormatError → String
  | truncated part => "truncated " ++ part.name
  | noDosSignature => "missing MZ signature"
  | noPeSignature offset => "missing PE signature at offset 0x" ++ Text.hexText offset
  | tooManySections count => "too many sections: " ++ toString count
  | unknownMagic magic => "unknown optional header magic 0x" ++ Text.hexText magic
  | outOfBounds payload finish fileSize =>
    "section " ++ payload.sectionName ++ " ends at " ++ toString finish ++
      ", past the end of the " ++ toString fileSize ++ " byte file"

inductive ImageError where
  | cannotOpen (path : String) (cause : IoError)
  | format (cause : FormatError)
  | missingSections (payloads : List Payload)
  | payloadTooLarge (size capacity : Nat)
  | io (cause : IoError)
  deriving DecidableEq, Repr

namespace ImageError

def message : ImageError → String
  | cannotOpen path _ => "opening " ++ path
  | format cause => "invalid PE image: " ++ cause.message
  | missingSections payloads =>
    "required sections not found in PE image: " ++
      ", ".intercalate (payloads.map Payload.sectionName)
  | payloadTooLarge size capacity =>
    "new cmdline too long: " ++ toString size ++ " bytes, max " ++ toString capacity ++ " bytes"
  | io cause => cause.message

/-- The failure behind this one, where the message does not already tell it. -/
def cause? : ImageError → Option IoError
  | cannotOpen _ cause => some cause
  | _ => none

/-- The message with the failure behind it. -/
def chain (e : ImageError) : String :=
  match e.cause? with
  | none => e.message
  | some cause => e.message ++ ": " ++ cause.message

end ImageError

end NextBoot.Image
