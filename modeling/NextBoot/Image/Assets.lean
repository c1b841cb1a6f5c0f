import NextBoot.Image.SectionReader
import NextBoot.Image.SectionTable
import NextBoot.PathState
import NextBoot.Payload
import NextBoot.Text.Escaped

/-! The three payloads of an image as readers, found all or none. -/
namespace NextBoot.Image

/-- The header bound to each payload. -/
abbrev Bindings := Payload → Option SectionHeader

/-- Bind each payload to the first header of its name. Only a header that is bound has to lie in the
file; later ones of the same name are passed over. -/
def bindHeaders (fileSize : Nat) : Bindings → List SectionHeader → Except FormatError Bindings
  | found, [] => .ok found
  | found, header :: rest =>
    match header.payload? with
    | none => bindHeaders fileSize found rest
    | some payload =>
      if (found payload).isSome then bindHeaders fileSize found rest
      else do
        header.checkBounds payload fileSize
        bindHeaders fileSize (fun p => if p = payload then some header else found p) rest

structure Assets where
  kernel : SectionReader
  initrd : SectionReader
  cmdline : SectionReader
  deriving DecidableEq, Repr

namespace Assets

def get (a : Assets) : Payload → SectionReader
  | .kernel => a.kernel
  | .initrd => a.initrd
  | .cmdline => a.cmdline

def set (a : Assets) (reader : SectionReader) : Payload → Assets
  | .kernel => { a with kernel := reader }
  | .initrd => { a with initrd := reader }
  | .cmdline => { a with cmdline := reader }

def readers (a : Assets) : List SectionReader := Payload.all.map a.get

/-- The readers of an image with this content. -/
def ofFile (path : String) (file : Bytes) : Except ImageError Assets := do
  let headers ← (sectionHeaders file).mapError .format
  let found ← (bindHeaders file.length (fun _ => none) headers).mapError .format
  match found .kernel, found .initrd, found .cmdline with
  | some kernel, some initrd, some cmdline =>
    return ⟨⟨path, .kernel, kernel.offset, kernel.payloadSize, 0, false⟩,
      ⟨path, .initrd, initrd.offset, initrd.payloadSize, 0, false⟩,
      ⟨path, .cmdline, cmdline.offset, cmdline.payloadSize, 0, false⟩⟩
  | _, _, _ => throw (.missingSections (Payload.all.filter fun p => (found p).isNone))

end Assets

/-- What an image gives to boot from: two streams still to be read, and the command line. -/
structure BootAssets where
  kernel : SectionReader
  initrd : SectionReader
  cmdline : String
  deriving DecidableEq, Repr

namespace BootAssets

/-- Read the command line out of its stream. -/
def ofStream (a : Assets) (cmdline : Stream) : Except IoError BootAssets := do
  let stored ← cmdline.readToEnd
  return ⟨a.kernel, a.initrd, CommandLine.decode stored⟩

/-- Read the command line while the file stays as it is. -/
def ofAssets (a : Assets) (file : Bytes) : Except IoError BootAssets :=
  ofStream a (a.cmdline.stream file)

/-- The command line alone is shown; the streams are not. -/
def description (b : BootAssets) : String :=
  "BootAssets \x7b cmdline: " ++ Text.quoted b.cmdline ++ ", .. \x7d"

end BootAssets

/-- Open an image to read it. A directory opens, but has no bytes. -/
def openImage (path : String) (state : PathState) : Except ImageError Bytes :=
  match state with
  | .missing => .error (.cannotOpen path (.os .noEntry))
  | .blocked cause => .error (.cannotOpen path cause)
  | .directory => .error (.io (.os .isDirectory))
  | .file content => .ok content

/-- Open an image to change it, which a directory refuses. -/
def openImageWritable (path : String) (state : PathState) : Except ImageError Bytes :=
  match state with
  | .directory => .error (.cannotOpen path (.os .isDirectory))
  | state => openImage path state

def extract (path : String) (state : PathState) : Except ImageError Assets := do
  Assets.ofFile path (← openImage path state)

end NextBoot.Image
