import NextBoot.Ascending
import NextBoot.Failure
import NextBoot.Firmware.Directory
import NextBoot.Firmware.Guid
import NextBoot.Firmware.InodeFlags
import NextBoot.Log
import NextBoot.Mount
import NextBoot.Text.Escaped

/-! Firmware variables in a directory: one file each, named for the variable and its owner, holding
four bytes of attributes and then the value. -/
namespace NextBoot.Firmware

structure Attributes where
  bits : UInt32
  deriving DecidableEq, Repr

namespace Attributes

def nonVolatile : Attributes := ⟨1⟩
def bootServiceAccess : Attributes := ⟨2⟩
def runtimeAccess : Attributes := ⟨4⟩

def union (a b : Attributes) : Attributes := ⟨a.bits ||| b.bits⟩

def contains (a b : Attributes) : Bool := a.bits &&& b.bits = b.bits

/-- Access at run time implies access at boot. -/
def granted (a : Attributes) : Attributes :=
  if a.contains runtimeAccess then a.union bootServiceAccess else a

def size : Nat := 4

end Attributes

inductive Activity where
  | reading
  | writing
  | deleting
  | listing
  deriving DecidableEq, Repr

def Activity.name : Activity → String
  | reading => "reading"
  | writing => "writing"
  | deleting => "deleting"
  | listing => "listing"

inductive StoreError where
  | malformed (name : String) (size : Nat)
  | readOnly
  | notFound (name : String)
  | io (activity : Activity) (name : String) (cause : IoError)
  deriving DecidableEq, Repr

namespace StoreError

def ofErrno (activity : Activity) (name : String) (cause : Errno) : StoreError :=
  if cause = .noEntry then notFound name else io activity name (.os cause)

/-- A record that was taken in part counts as not written. -/
def ofAnswer (name : String) {record : Bytes} : WriteAnswer record → Except StoreError Unit
  | .error cause => .error (ofErrno .writing name cause)
  | .ok count =>
    if count.val = record.length then .ok ()
    else .error (io .writing name (.shortWrite count record.length))

def message : StoreError → String
  | malformed name size =>
    "reading " ++ Text.quoted name ++ ": malformed, " ++ toString size ++
      " bytes is less than the 4 byte attribute header"
  | readOnly => "efivarfs was opened read-only"
  | notFound name => "variable " ++ Text.quoted name ++ " not found"
  | io activity name _ => activity.name ++ " " ++ Text.quoted name

def cause? : StoreError → Option IoError
  | io _ _ cause => some cause
  | _ => none

/-- The message with the failure behind it. -/
def chain (e : StoreError) : String :=
  match e.cause? with
  | none => e.message
  | some cause => e.message ++ ": " ++ cause.message

end StoreError

/-- The end of the file names of all variables of one owner. -/
def ownerSuffix (scope : Guid) : List Char := '-' :: scope.chars

def variableFile (scope : Guid) (name : String) : Bytes :=
  Text.Utf8.encode (name ++ String.ofList (ownerSuffix scope))

/-- The variable that a file of this name holds for the owner. -/
def variableName? (scope : Guid) (file : Bytes) : Option String := do
  let text ← Text.Utf8.decode? file
  let chars := text.toList
  let size := chars.length - (ownerSuffix scope).length
  if chars.drop size = ownerSuffix scope then some (String.ofList (chars.take size)) else none

structure SecureBoot where
  enabled : Bool
  /-- Keys can be enrolled without authentication. -/
  setupMode : Bool
  deriving DecidableEq, Repr, Inhabited

structure VariableStore where
  directory : Directory
  writable : Bool
  flags : InodeFlags
  writes : WriteCalls := .whole

namespace VariableStore

def readFrom (d : Directory) (scope : Guid) (name : String) :
    Except StoreError (Bytes × Attributes) := do
  let content ← (d.readFile (variableFile scope name)).mapError (.ofErrno .reading name)
  match content with
  | b₀ :: b₁ :: b₂ :: b₃ :: value => return (value, ⟨Bytes.word32 b₀ b₁ b₂ b₃⟩)
  | short => throw (.malformed name short.length)

def read (s : VariableStore) (scope : Guid) (name : String) :
    Except StoreError (Bytes × Attributes) :=
  readFrom s.directory scope name

/-- The flags are cleared only for a file that is there; the answer tells whether they had to be. -/
def clearImmutable (s : VariableStore) (file : Bytes) : Except Errno Bool × VariableStore :=
  match s.directory.openNode file with
  | .error .noEntry => (.ok false, s)
  | .error e => (.error e, s)
  | .ok _ =>
    let (cleared, flags) := s.flags.clearImmutable
    (cleared, { s with flags })

def setImmutable (s : VariableStore) (file : Bytes) : Except Errno Unit × VariableStore :=
  match s.directory.openNode file with
  | .error e => (.error e, s)
  | .ok _ =>
    let (done, flags) := s.flags.setImmutable
    (done, { s with flags })

/-- Write a record in a single call, to a file that is created or emptied first. So whatever the call
did not take is gone. -/
def writeRecord (s : VariableStore) (name : String) (file record : Bytes) :
    Except StoreError Unit × VariableStore :=
  match s.directory.create file with
  | .error e => (.error (.ofErrno .writing name e), s)
  | .ok created =>
    let (answer, writes) := s.writes.call file record
    (StoreError.ofAnswer name answer,
      { s with directory := created.insert file (.file answer.taken), writes })

/-- Create or replace a variable. Trouble with the immutable flag is only logged: if it really keeps
the file from being written, the write itself says so. -/
def write (s : VariableStore) (scope : Guid) (name : String) (attributes : Attributes)
    (value : Bytes) : Logged (Except StoreError Unit × VariableStore) := do
  if s.writable then
    let file := variableFile scope name
    let (cleared, opened) := s.clearImmutable file
    let wasImmutable ← Logged.orWarnDefault Errno.message cleared
    match opened.writeRecord name file (Bytes.ofWord32 attributes.granted.bits ++ value) with
    | (.error e, left) => return (.error e, left)
    | (.ok (), written) =>
      if wasImmutable then
        let (restored, closed) := written.setImmutable file
        let _ ← Logged.orWarnWith Errno.message "restoring immutable flag" restored
        return (.ok (), closed)
      else return (.ok (), written)
  else return (.error .readOnly, s)

def delete (s : VariableStore) (scope : Guid) (name : String) :
    Logged (Except StoreError Unit × VariableStore) := do
  if s.writable then
    let file := variableFile scope name
    let (cleared, opened) := s.clearImmutable file
    let _ ← Logged.orWarn Errno.message cleared
    match s.directory.removeFile file with
    | .error e => return (.error (.ofErrno .deleting name e), opened)
    | .ok directory => return (.ok (), { opened with directory })
  else return (.error .readOnly, s)

/-- The variable of the owner that a directory entry is. -/
def ownedVariable? (scope : Guid) : Bytes × Node → Option String
  | (_, .directory) => none
  | (file, .file _) => variableName? scope file

/-- The names of the owner's variables, ascending. -/
def list (s : VariableStore) (scope : Guid) : Except StoreError (List String) := do
  let entries ← s.directory.list.mapError (.ofErrno .listing ".")
  return Ascending.ofList (fun a b => decide (a < b)) (entries.filterMap (ownedVariable? scope))

/-- Whether the first byte of a value is one. -/
def isSet (value : Bytes) : Bool := value.head? = some 1

/-- A store without a variable for setup mode is not in it. -/
def secureBoot (s : VariableStore) : Except StoreError SecureBoot := do
  let (enabled, _) ← s.read .globalVariable "SecureBoot"
  match s.read .globalVariable "SetupMode" with
  | .ok (setup, _) => return ⟨isSet enabled, isSet setup⟩
  | .error (.notFound _) => return ⟨isSet enabled, false⟩
  | .error e => throw e

end VariableStore

namespace Place

def openDirectory : Place → Except IoError Directory
  | directory content => .ok content
  | file => .error (.os .notDirectory)
  | unreachable cause => .error cause.toIoError

def mountFlags (flags : UInt64) : Place → Except Errno UInt64
  | unreachable cause => .error cause.toErrno
  | _ => .ok flags

end Place

/-- Open the store at `path` for reading. -/
def openStore (path : String) (place : Place) (flags : InodeFlags) (writes : WriteCalls) :
    Except (Failure IoError) VariableStore :=
  match place.openDirectory with
  | .ok directory => .ok ⟨directory, false, flags, writes⟩
  | .error e => .error ((Failure.of e).within ("Opening firmware variables at " ++ path))

/-- Open the store at `path` on a mount with these flags, which has to be writable meanwhile. -/
def openStoreWritable (path : String) (place : Place) (mount : UInt64) (flags : InodeFlags)
    (writes : WriteCalls) : Except (Failure IoError) VariableStore :=
  let opened : Except (Failure IoError) VariableStore := do
    let _ ← (Mount.makeWritable path (place.mountFlags mount)).mapError (Failure.map IoError.os)
    let directory ← place.openDirectory.mapError Failure.of
    return ⟨directory, true, flags, writes⟩
  opened.mapError (Failure.within ("Opening firmware variables at " ++ path ++ " for writing"))

end NextBoot.Firmware
