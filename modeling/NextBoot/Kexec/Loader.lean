import NextBoot.Kexec.Diagnostics
import NextBoot.Kexec.Kernel
import NextBoot.Payload

/-! Loading a kernel to switch to, and switching. -/
namespace NextBoot.Kexec

inductive Protocol where
  /-- The kernel takes files and checks their signature. -/
  | file
  /-- The kernel takes memory segments at fixed addresses and checks nothing. -/
  | legacy
  deriving DecidableEq, Repr, Inhabited

def Protocol.name : Protocol → String
  | file => "file"
  | legacy => "legacy"

def Protocol.ofName? (name : String) : Option Protocol :=
  [file, legacy].find? (·.name = name)

theorem Protocol.ofName?_eq_some_iff {name : String} {p : Protocol} :
    ofName? name = some p ↔ name = p.name := by
  constructor
  · intro h
    have hname := List.find?_some h
    exact (of_decide_eq_true hname).symm
  · rintro rfl
    cases p <;> rfl

inductive KexecError where
  | unsupported
  | permission (cause : PermissionDenied)
  | busy
  | signatureRejected
  | notSupported
  | invalidArgument
  | unknownCall (errno : Errno)
  | staging (payload : Payload) (cause : IoError)
  | reboot (errno : Errno)
  deriving DecidableEq, Repr

namespace KexecError

def message : KexecError → String
  | unsupported =>
    "kexec support is disabled in the kernel (CONFIG_KEXEC not enabled); " ++
      "install to disk and reboot through firmware instead"
  | permission cause => cause.message
  | busy => "kexec is busy (another kexec may be in progress)"
  | signatureRejected =>
    "kernel signature verification failed (unsigned kernel with lockdown enabled); " ++
      "use a signed image or boot with 'lockdown=none'"
  | notSupported =>
    "kexec_file_load not supported (old kernel or missing CONFIG_KEXEC_FILE); " ++
      "set protocol = \"legacy\" in [kexec]"
  | invalidArgument =>
    "kexec_load rejected the segment layout; " ++
      "check [kexec.legacy-layout] against this machine's memory map"
  | unknownCall errno =>
    "error loading kernel for kexec: " ++ errno.message ++ " (errno " ++ toString errno.code ++
      "); check dmesg for details"
  | staging payload _ => "staging " ++ payload.stagingName
  | reboot errno => "reboot with kexec failed: " ++ errno.message

def cause? : KexecError → Option IoError
  | staging _ cause => some cause
  | _ => none

/-- The message with the failure behind it. -/
def chain (e : KexecError) : String :=
  match e.cause? with
  | none => e.message
  | some cause => e.message ++ ": " ++ cause.message

end KexecError

/-- Two streams still to be read, and a command line. -/
structure BootSource where
  kernel : Stream
  initrd : Stream
  cmdline : String
  deriving DecidableEq, Repr

/-- The bytes of a command line, unless there is a zero among them. -/
def stageCommandLine (cmdline : String) : Except IoError Bytes :=
  let stored := Text.Utf8.encode cmdline
  match stored.findIdx? (· == 0) with
  | some position => .error (.nulByte position)
  | none => .ok stored

/-- What is handed over as files. A command line has a final zero. -/
structure StagedFiles where
  kernel : MemoryFile
  initrd : MemoryFile
  cmdline : Option Bytes
  deriving DecidableEq, Repr

/-- What is handed over as segments. The command line has a final zero. -/
structure StagedBuffers where
  kernel : Bytes
  initrd : Bytes
  cmdline : Bytes
  deriving DecidableEq, Repr

/-- Copy the kernel and the initrd into files. An empty command line is not passed at all. -/
def stageFiles (source : BootSource) (cmdline : String) : Except KexecError StagedFiles := do
  let kernel ← (MemoryFile.ofStream source.kernel).mapError (.staging .kernel)
  let initrd ← (MemoryFile.ofStream source.initrd).mapError (.staging .initrd)
  if cmdline.isEmpty then return ⟨kernel, initrd, none⟩
  else
    let stored ← (stageCommandLine cmdline).mapError (.staging .cmdline)
    return ⟨kernel, initrd, some (stored ++ [0])⟩

/-- Read the kernel and the initrd into buffers. -/
def stageBuffers (source : BootSource) (cmdline : String) : Except KexecError StagedBuffers := do
  let kernel ← source.kernel.collect.mapError (.staging .kernel)
  let initrd ← source.initrd.collect.mapError (.staging .initrd)
  let stored ← (stageCommandLine cmdline).mapError (.staging .cmdline)
  return ⟨kernel, initrd, stored ++ [0]⟩

def StagedFiles.call (s : StagedFiles) (flags : Nat) : Call :=
  .fileLoad s.kernel.unread s.initrd.unread s.cmdline flags

def StagedBuffers.call (s : StagedBuffers) (layout : Layout) : Call :=
  .segmentLoad (layout.segments s.kernel s.initrd s.cmdline) architectureFlag

structure Loader where
  protocol : Protocol
  layout : Layout
  diagnostics : Diagnostics

namespace Loader

/-- What an error of a load call means to the operator. -/
def classify (l : Loader) (errno : Errno) : Logged KexecError :=
  match errno with
  | .notImplemented => pure .unsupported
  | .notPermitted => do return .permission (← l.diagnostics.permissionDenied)
  | .busy => pure .busy
  | .keyRejected => pure .signatureRejected
  | .notSupported => pure .notSupported
  | errno =>
    if errno = .invalidArgument ∧ l.protocol = .legacy then pure .invalidArgument
    else pure (.unknownCall errno)

/-- Files that are not permitted are tried once more without checking their signature. -/
def callFiles (files : StagedFiles) (k : Kernel) : Logged (Except Errno Unit × Kernel) := do
  match k.call (files.call 0) with
  | (.error .notPermitted, k) =>
    Logged.tell (.warn .loader
      "kexec_file_load failed with EPERM, retrying with KEXEC_FILE_LOAD_UNSAFE")
    return k.call (files.call unsafeFlag)
  | answer => return answer

/-- The answer to a load call, as it is told to the operator. -/
def conclude (l : Loader) :
    Except Errno Unit × Kernel → Logged (Except KexecError Unit × Kernel)
  | (.error errno, k) => do return (.error (← l.classify errno), k)
  | (.ok (), k) => pure (.ok (), k)

def loadFiles (l : Loader) (source : BootSource) (cmdline : String) (k : Kernel) :
    Logged (Except KexecError Unit × Kernel) := do
  match stageFiles source cmdline with
  | .error e => return (.error e, k)
  | .ok files => l.conclude (← callFiles files k)

def loadSegments (l : Loader) (source : BootSource) (cmdline : String) (k : Kernel) :
    Logged (Except KexecError Unit × Kernel) := do
  match stageBuffers source cmdline with
  | .error e => return (.error e, k)
  | .ok buffers => l.conclude (k.call (buffers.call l.layout))

def loadByProtocol (l : Loader) (source : BootSource) (cmdline : String) (k : Kernel) :
    Logged (Except KexecError Unit × Kernel) :=
  match l.protocol with
  | .file => l.loadFiles source cmdline k
  | .legacy => l.loadSegments source cmdline k

/-- Load a kernel without switching to it. -/
def load (l : Loader) (source : BootSource) (extra : List String) (k : Kernel) :
    Logged (Except KexecError Unit × Kernel) := do
  let cmdline := CommandLine.join source.cmdline extra
  Logged.tell (.info .loader ("cmdline: " ++ cmdline) [("protocol", l.protocol.name)])
  match ← l.loadByProtocol source cmdline k with
  | (.error e, k) => return (.error e, k)
  | (.ok (), k) =>
    Logged.tell (.info .loader "kexec loaded successfully")
    return (.ok (), k)

/-- Switch to the loaded kernel. Once that succeeds nothing is left to give an answer. -/
def transition (k : Kernel) : Logged (Option KexecError × Kernel) := do
  Logged.tell (.info .loader "rebooting into the loaded kernel")
  match k.call .reboot with
  | (.error errno, k) => return (some (.reboot errno), k)
  | (.ok (), k) => return (none, k)

def loadAndTransition (l : Loader) (source : BootSource) (extra : List String) (k : Kernel) :
    Logged (Option KexecError × Kernel) := do
  match ← l.load source extra k with
  | (.error e, k) => return (some e, k)
  | (.ok (), k) => transition k

end Loader

end NextBoot.Kexec
