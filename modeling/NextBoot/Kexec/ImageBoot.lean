import NextBoot.Failure
import NextBoot.Image.Assets
import NextBoot.Kexec.Loader

/-! Booting the kernel of an image in place of the running one. -/
namespace NextBoot.Kexec

open NextBoot.Image (Assets BootAssets ImageError)
open NextBoot.Image.SectionReader (View)

/-- The streams of boot assets while the image has this content. -/
def BootSource.ofAssets (b : BootAssets) (file : Bytes) : BootSource :=
  ⟨b.kernel.stream file, b.initrd.stream file, b.cmdline⟩

/-- The content of an image and what it gives to boot from. -/
def openBootAssets (path : String) (state : PathState) :
    Except ImageError (Bytes × BootAssets) := do
  let file ← Image.openImage path state
  let assets ← Assets.ofFile path file
  let boot ← (BootAssets.ofAssets assets file).mapError .io
  return (file, boot)

inductive BootFailure where
  | image (cause : ImageError)
  | kexec (cause : KexecError)
  deriving DecidableEq, Repr

def BootFailure.chain : BootFailure → String
  | image cause => cause.chain
  | kexec cause => cause.chain

/-- Load the payloads of assets, while the image may change: each read of a payload meets a view of
its own. -/
def loadAssets (l : Loader) (a : Assets) (views : Payload → Nat → View) (extra : List String)
    (k : Kernel) : Logged (Except BootFailure Unit × Kernel) := do
  match BootAssets.ofStream a (a.cmdline.streamThrough (views .cmdline)) with
  | .error e => return (.error (.image (.io e)), k)
  | .ok b =>
    let kernel := b.kernel.streamThrough (views .kernel)
    let initrd := b.initrd.streamThrough (views .initrd)
    let (result, k) ← l.load ⟨kernel, initrd, b.cmdline⟩ extra k
    return (result.mapError .kexec, k)

/-- Boot the image at `path`. The loader is made once the image has been read. There is an answer
only if booting fails. -/
def bootImage (loader : Logged Loader) (path : String) (state : PathState) (extra : List String)
    (k : Kernel) : Logged (Option (Failure BootFailure) × Kernel) := do
  let context := "Booting " ++ path ++ " with kexec"
  match openBootAssets path state with
  | .error e => return (some ((Failure.of (.image e)).within context), k)
  | .ok (file, assets) =>
    let l ← loader
    let (answer, k) ← l.loadAndTransition (.ofAssets assets file) extra k
    return (answer.map fun e => (Failure.of (.kexec e)).within context, k)

end NextBoot.Kexec
