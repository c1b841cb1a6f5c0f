import NextBoot.Firmware.Promotion
import NextBoot.Image.StoredCommandLine
import NextBoot.Invocation
import NextBoot.Kexec.ImageBoot
import NextBoot.Log.Filter
import NextBoot.Settings
import NextBoot.Text.Escaped
import NextBoot.Toml.Document

/-! A run of the program: what it finds on the host, and what it prints and changes. -/
namespace NextBoot

open NextBoot.Firmware
  (AccessError BootOrder Directory InodeFlags LoadOption Place WriteCalls)
open NextBoot.Kexec (Diagnostics Kernel Loader Protocol)

/-- The values of the environment variables that matter. -/
structure Environment where
  logFilter : Option String := none
  commonLogFilter : Option String := none
  settingsPath : Option Bytes := none

/-- What a run finds. -/
structure Host where
  environment : Environment
  file : String → PathState
  place : String → Place
  mountFlags : String → UInt64
  inodeFlags : InodeFlags
  writeCalls : WriteCalls
  isRoot : Bool
  kernel : Kernel

inductive Change where
  | file (path : String) (content : Bytes)
  | variables (path : String) (content : Directory)

namespace Program

def versionText : String := "boot-to-talos 0.3.0\n"

def usageText : String :=
  "Usage: boot-to-talos <COMMAND>\n\nCommands: " ++
    ", ".intercalate Invocation.names ++ "\n"

inductive Error where
  | notRoot
  | notFirmwareBoot
  | image (cause : Image.ImageError)
  | settings (cause : Failure Settings.Error)
  | boot (cause : Failure Kexec.BootFailure)
  | firmware (cause : Failure AccessError)
  /-- Arose while the boot order was to be shown. -/
  | showing (cause : Error)

def Error.message : Error → String
  | notRoot => "This command must be executed as the root user"
  | notFirmwareBoot => "Not booted through UEFI"
  | image cause => cause.chain
  | settings cause => cause.render Settings.Error.message
  | boot cause => cause.render Kexec.BootFailure.chain
  | firmware cause => cause.render AccessError.chain
  | showing cause => "Showing boot order: " ++ cause.message

/-- What a command prints, or why it failed, and what it changed by then. -/
abbrev Answer := Logged (Except Error String × List Change)

def firmwarePath : String := "/sys/firmware/efi"

/-- Whether the system was booted through its firmware's boot manager. -/
def isFirmwareBoot (h : Host) : Logged Bool :=
  match h.file firmwarePath with
  | .missing => pure false
  | .blocked cause => Logged.orWarnDefault IoError.message (.error cause)
  | _ => pure true

def loadSettings (h : Host) : Except Error Settings :=
  (Settings.load Toml.parse? h.environment.settingsPath h.file).mapError .settings

/-- A store that cannot be opened only loses a hint. -/
def diagnostics (h : Host) (storePath : String) : Logged Diagnostics := do
  let store ←
    if ← isFirmwareBoot h then
      Logged.orWarn (Failure.render IoError.message)
        (Firmware.openStore storePath (h.place storePath) h.inodeFlags h.writeCalls)
    else pure none
  return ⟨h.file "/sys/kernel/security/lockdown", h.file "/proc/sys/kernel/kexec_load_disabled",
    store⟩

/-- Where booting succeeds, nothing more is printed or changed. -/
def kexec (h : Host) (path : String) (extra : List String) (protocol : Option Protocol) :
    Answer := do
  if h.isRoot then
    match loadSettings h with
    | .error e => return (.error e, [])
    | .ok settings =>
      let loader : Logged Loader := do
        return ⟨protocol.getD settings.protocol, settings.layout,
          ← diagnostics h settings.storePath⟩
      match ← Kexec.bootImage loader path (h.file path) extra h.kernel with
      | (some failure, _) => return (.error (.boot failure), [])
      | (none, _) => return (.ok "", [])
  else return (.error .notRoot, [])

/-- Note how many sections an image has, if its table can be read. -/
def noteSections (opened : Except Image.ImageError Bytes) : Logged Unit :=
  match opened.toOption.bind fun file => (Image.sectionHeaders file).toOption with
  | none => pure ()
  | some headers =>
    Logged.tell ⟨.trace, .sectionTable, "read PE section table",
      [("count", toString headers.length)]⟩

def readCommandLine (h : Host) (path : String) : Answer := do
  noteSections (Image.openImage path (h.file path))
  match Image.readCommandLine path (h.file path) with
  | .error e => return (.error (.image e), [])
  | .ok text => return (.ok (text ++ "\n"), [])

def patchCommandLine (h : Host) (path value : String) : Answer := do
  noteSections (Image.openImageWritable path (h.file path))
  match ← Image.patchCommandLine path (h.file path) value with
  | (.error e, _) => return (.error (.image e), [])
  | (.ok (), .file content) => return (.ok "", [.file path content])
  | (.ok (), _) => return (.ok "", [])

/-- A promotion that fails may have changed the store all the same. -/
def promote (h : Host) (description : Option String) : Answer := do
  if h.isRoot then
    if ← isFirmwareBoot h then
      match loadSettings h with
      | .error e => return (.error e, [])
      | .ok settings =>
        let path := settings.storePath
        let (result, directory?) ← Firmware.promoteAt path (h.place path) (h.mountFlags path)
          h.inodeFlags h.writeCalls (description.getD settings.description)
        let changes := directory?.toList.map (Change.variables path)
        match result with
        | .error e => return (.error (.firmware e), changes)
        | .ok order => return (.ok ("BootOrder: " ++ order.text ++ "\n"), changes)
    else return (.error .notFirmwareBoot, [])
  else return (.error .notRoot, [])

/-- The order, then each entry; those in the order are starred. -/
def bootOrderText (order : BootOrder) (entries : List (UInt16 × LoadOption)) : String :=
  entries.foldl (fun text (index, entry) =>
    text ++ Firmware.bootName .upper index ++ (if index ∈ order.indices then "* " else "  ") ++
      entry.description ++ "\n") ("BootOrder: " ++ order.text ++ "\n")

def showBootOrder (h : Host) : Answer := do
  match loadSettings h with
  | .error e => return (.error e, [])
  | .ok settings =>
    if ← isFirmwareBoot h then
      let path := settings.storePath
      match Firmware.openStore path (h.place path) h.inodeFlags h.writeCalls with
      | .error e => return (.error (.showing (.firmware (e.map .notOpened))), [])
      | .ok store =>
        match BootOrder.read store with
        | .error e => return (.error (.showing (.firmware (Failure.of (.refused e)))), [])
        | .ok order =>
          match ← Firmware.bootEntries store with
          | .error e => return (.error (.showing (.firmware (Failure.of (.refused e)))), [])
          | .ok entries => return (.ok (bootOrderText order entries), [])
    else return (.error (.showing .notFirmwareBoot), [])

def perform (h : Host) : Invocation → Answer
  | .kexec image extra protocol => kexec h image extra protocol
  | .readCommandLine image => readCommandLine h image
  | .patchCommandLine image cmdline => patchCommandLine h image cmdline
  | .promote description => promote h description
  | .showBootOrder => showBootOrder h

/-- The program's own variable wins over the common one, and a filter that cannot be read is passed
over. -/
def filter (e : Environment) : Log.Filter :=
  ((e.logFilter.bind Log.Filter.ofText?).or (e.commonLogFilter.bind Log.Filter.ofText?)).getD
    Log.Filter.usual

/-- The name of the level, padded on the left to five characters, and the rest of the message. -/
def logLine (m : Message) : String :=
  String.ofList (List.replicate (5 - m.level.name.length) ' ') ++
    { m with text := Text.tamed m.text }.render ++ "\n"

def logText (e : Environment) (log : Log) : String :=
  String.join ((log.filter (filter e).shows).map logLine)

structure Outcome where
  exitCode : UInt32
  output : String
  errorOutput : String
  changes : List Change

/-- The first message of every run. -/
def started : Message := ⟨.trace, .program, "starting boot-to-talos", []⟩

def ofUsageError (log : Log) (e : Environment) : UsageError → Outcome
  | .displayHelp => ⟨0, usageText, logText e log, []⟩
  | .displayVersion => ⟨0, versionText, logText e log, []⟩
  | _ => ⟨2, "", logText e log ++ usageText, []⟩

/-- Run the program with the words after its name. -/
def run (h : Host) (words : List String) : Outcome :=
  match Invocation.ofWords words with
  | .error e => ofUsageError [started] h.environment e
  | .ok invocation =>
    match Logged.tell started >>= fun () => perform h invocation with
    | ⟨(.ok output, changes), log⟩ => ⟨0, output, logText h.environment log, changes⟩
    | ⟨(.error e, changes), log⟩ =>
      ⟨1, "", logText h.environment (log ++ [⟨.error, .program, e.message, []⟩]), changes⟩

end Program

end NextBoot
