import NextBoot.Image.Assets
import NextBoot.Log

/-! The command line stored in an image: reading it, and replacing it in place. -/
namespace NextBoot.Image

/-- The first command line section, which must lie in the file. -/
def findCommandLine (file : Bytes) : Except ImageError SectionHeader := do
  let headers ← (sectionHeaders file).mapError .format
  match headers.find? (fun h => h.payload? = some .cmdline) with
  | none => throw (.missingSections [.cmdline])
  | some header =>
    (header.checkBounds .cmdline file.length).mapError .format
    return header

def storedCommandLine (file : Bytes) : Except ImageError String := do
  let header ← findCommandLine file
  return CommandLine.decode (file.slice header.offset header.payloadSize)

/-- The sizes of a new value and of the section that took it, and the file with it. -/
structure Patched where
  size : Nat
  capacity : Nat
  file : Bytes
  deriving DecidableEq, Repr

/-- The file with `value`, followed by zeros, as its stored command line. -/
def patched (file : Bytes) (value : String) : Except ImageError Patched := do
  let header ← findCommandLine file
  let stored := Text.Utf8.encode value
  if header.payloadSize < stored.length then
    throw (.payloadTooLarge stored.length header.payloadSize)
  return ⟨stored.length, header.payloadSize,
    file.writeAt header.offset (stored.padTo header.payloadSize)⟩

def readCommandLine (path : String) (state : PathState) : Except ImageError String := do
  storedCommandLine (← openImage path state)

/-- Replace the stored command line of the image at `path`; the answer comes with what the path
names afterwards. -/
def patchCommandLine (path : String) (state : PathState) (value : String) :
    Logged (Except ImageError Unit × PathState) := do
  match openImageWritable path state >>= (patched · value) with
  | .error e => return (.error e, state)
  | .ok p =>
    Logged.tell (.info .image "patched cmdline"
      [("path", path), ("len", toString p.size), ("max", toString p.capacity)])
    return (.ok (), .file p.file)

end NextBoot.Image
