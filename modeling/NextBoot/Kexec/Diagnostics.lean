import NextBoot.Firmware.VariableStore
import NextBoot.Log
import NextBoot.PathState
import NextBoot.Text.Characters

/-! Why the system does not permit loading a kernel. -/
namespace NextBoot.Kexec

open NextBoot.Firmware (SecureBoot VariableStore)

inductive PermissionDenied where
  | lockdown (mode : String) (secureBoot : SecureBoot)
  | administrativelyDisabled
  | unknown
  deriving DecidableEq, Repr

def PermissionDenied.message : PermissionDenied → String
  | lockdown mode secureBoot =>
    "kexec blocked: kernel is in lockdown mode (" ++ mode ++ ")." ++
      (if secureBoot.enabled then
        "\n  Note: Secure Boot is enabled, which activates kernel lockdown" else "") ++
      (if secureBoot.setupMode then
        "\n  Note: firmware is in Setup Mode; keys can be enrolled to sign the image" else "") ++
      "\nSolutions:\n  1. Disable Secure Boot in BIOS/UEFI settings" ++
      "\n  2. Boot with 'lockdown=none' kernel parameter"
  | administrativelyDisabled =>
    "kexec is disabled via sysctl (kernel.kexec_load_disabled=1). " ++
      "This cannot be undone without a reboot; reboot and keep the sysctl unset"
  | unknown =>
    "kexec blocked: permission denied. Possible causes:" ++
      "\n  1. Kernel requires signed image (try booting with 'lockdown=none')" ++
      "\n  2. Secure Boot is enabled" ++
      "\n  3. Check /proc/sys/kernel/kexec_load_disabled"

/-- What tells of the cause: two files of the kernel, and the firmware variables if there are
any. -/
structure Diagnostics where
  lockdownFile : PathState
  disabledFile : PathState
  store : Option VariableStore

/-- Whether `word` occurs in a text. -/
def mentions (word : List Char) : List Char → Bool
  | [] => word.isEmpty
  | c :: cs => word.isPrefixOf (c :: cs) || mentions word cs

namespace Diagnostics

/-- The text of a file without surrounding blanks, if there is a file. -/
def readTrimmed (state : PathState) : Except IoError (Option String) :=
  match state with
  | .missing => .ok none
  | state => state.readText.map fun text => some (Text.trim text)

def isActiveMode (mode : String) : Bool :=
  mentions "[integrity]".toList mode.toList || mentions "[confidentiality]".toList mode.toList

/-- The lockdown mode in effect. -/
def lockdown (d : Diagnostics) : Logged (Option String) := do
  let text ← Logged.orWarn IoError.message (readTrimmed d.lockdownFile)
  return text.join.filter isActiveMode

def loadDisabled (d : Diagnostics) : Logged Bool := do
  let text ← Logged.orWarn IoError.message (readTrimmed d.disabledFile)
  return text.join = some "1"

/-- Nothing is set where nothing can be read. -/
def secureBoot (d : Diagnostics) : Logged SecureBoot :=
  match d.store with
  | none => pure default
  | some store => Logged.orWarnDefault Firmware.StoreError.message store.secureBoot

/-- Lockdown is looked for first, since it is the more common cause. -/
def permissionDenied (d : Diagnostics) : Logged PermissionDenied := do
  match ← d.lockdown with
  | some mode => return .lockdown mode (← d.secureBoot)
  | none =>
    if ← d.loadDisabled then return .administrativelyDisabled
    else return .unknown

end Diagnostics

end NextBoot.Kexec
