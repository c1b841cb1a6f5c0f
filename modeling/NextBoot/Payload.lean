import NextBoot.Text.Characters
import NextBoot.Text.Utf8

/-! The three things a unified kernel image carries, and how the command line among them is read and
extended. -/
namespace NextBoot

inductive Payload where
  | kernel
  | initrd
  | cmdline
  deriving DecidableEq, Repr

namespace Payload

def all : List Payload := [kernel, initrd, cmdline]

/-- The name of the image section that holds the payload. -/
def sectionName : Payload → String
  | kernel => ".linux"
  | initrd => ".initrd"
  | cmdline => ".cmdline"

/-- The name under which the payload is staged for the kernel. -/
def stagingName : Payload → String
  | kernel => "kernel"
  | initrd => "initramfs"
  | cmdline => "cmdline"

/-- The key under which settings give the payload's address. -/
def addressKey : Payload → String
  | kernel => "kernel-address"
  | initrd => "initrd-address"
  | cmdline => "cmdline-address"

end Payload

namespace CommandLine

/-- The text of a stored command line, without the zeros after it and the blanks around it. -/
def decode (stored : Bytes) : String :=
  Text.trim (Text.Utf8.decodeLossy (Bytes.dropTrailingZeros stored))

/-- The parts without surrounding blanks, those that are not blank, one space between two. -/
def join (base : String) (extra : List String) : String :=
  " ".intercalate (((base :: extra).map Text.trim).filter (· ≠ ""))

end CommandLine

end NextBoot
