import NextBoot.Bytes
import NextBoot.Payload
import NextBoot.Text.Number

/-! Where the payloads go in memory when they are loaded as segments. -/
namespace NextBoot.Kexec

def pageSize : UInt64 := 4096

def addressLimit : UInt64 := 0x100000000

/-- The least multiple of the page size from `n` on, where it fits in 64 bits. -/
def pageAlign (n : UInt64) : UInt64 :=
  (n / pageSize + if n % pageSize = 0 then 0 else 1) * pageSize

/-- The address of each payload. -/
structure Layout where
  kernel : UInt64 := 0x100000
  initrd : UInt64 := 0x30000000
  cmdline : UInt64 := 0x90000
  deriving DecidableEq, Repr

inductive LayoutError where
  | unaligned (payload : Payload) (address : UInt64)
  | tooHigh (payload : Payload) (address : UInt64)
  | shared (first second : Payload) (address : UInt64)
  deriving DecidableEq, Repr

def LayoutError.message : LayoutError → String
  | unaligned payload address =>
    payload.addressKey ++ " 0x" ++ Text.hexText address.toNat ++ " is not page aligned"
  | tooHigh payload address =>
    payload.addressKey ++ " 0x" ++ Text.hexText address.toNat ++ " is not below 4 GiB"
  | shared first second address =>
    first.addressKey ++ " and " ++ second.addressKey ++ " are both 0x" ++
      Text.hexText address.toNat

/-- A piece of memory to fill: the content, where it goes, and how much is reserved there. -/
structure Segment where
  content : Bytes
  address : UInt64
  reserved : UInt64
  deriving DecidableEq, Repr

/-- Whole pages are reserved, and at least one. -/
def Segment.place (content : Bytes) (address : UInt64) : Segment :=
  ⟨content, address, pageAlign (UInt64.ofNat (max content.length 1))⟩

namespace Layout

def address (l : Layout) : Payload → UInt64
  | .kernel => l.kernel
  | .initrd => l.initrd
  | .cmdline => l.cmdline

def checkAddress (l : Layout) (p : Payload) : Except LayoutError Unit :=
  if l.address p % pageSize ≠ 0 then .error (.unaligned p (l.address p))
  else if l.address p < addressLimit then .ok ()
  else .error (.tooHigh p (l.address p))

def checkDistinct (l : Layout) (p q : Payload) : Except LayoutError Unit :=
  if l.address p = l.address q then .error (.shared p q (l.address p)) else .ok ()

/-- Page aligned, below 4 GiB and distinct. -/
def validate (l : Layout) : Except LayoutError Unit := do
  l.checkAddress .kernel
  l.checkAddress .initrd
  l.checkAddress .cmdline
  l.checkDistinct .kernel .initrd
  l.checkDistinct .kernel .cmdline
  l.checkDistinct .initrd .cmdline

/-- The segments of the kernel, the initrd and the command line, in that order. Whether they overlap
is not checked. -/
def segments (l : Layout) (kernel initrd cmdline : Bytes) : List Segment :=
  [.place kernel l.kernel, .place initrd l.initrd, .place cmdline l.cmdline]

end Layout

end NextBoot.Kexec
