import NextBoot.Bytes
import NextBoot.Errno

/-! Names of files, which are bytes. -/
namespace NextBoot.FileName

/-- The longest name, in bytes. -/
def limit : Nat := 255

/-- The longest path, in bytes. -/
def pathLimit : Nat := 4095

def slash : UInt8 := 0x2F

def dot : UInt8 := 0x2E

/-- Names that every directory has for itself and for the one around it. -/
def isDirectoryName (name : Bytes) : Bool := name == [] || name == [dot] || name == [dot, dot]

/-- A name with a slash leads into a directory that does not exist, unless its first part is already
too long. -/
def checkParts (name : Bytes) : Except Errno Unit :=
  if isDirectoryName name then .error .isDirectory
  else
    let first := name.takeWhile (· != slash)
    if limit < first.length then .error .nameTooLong
    else if first.length < name.length then .error .noEntry
    else .ok ()

/-- Refuse names with which no file can be opened. -/
def check (name : Bytes) : Except Errno Unit :=
  if 0 ∈ name then .error .invalidArgument
  else if pathLimit < name.length then .error .nameTooLong
  else checkParts name

/-- What stands before the last slash. -/
def parent (name : Bytes) : Bytes := ((name.reverse.dropWhile (· != slash)).drop 1).reverse

/-- Refuse names with which no file can be removed. What stands before the last slash is opened as
a directory first, so that only its own faults count, and that it is not there. -/
def checkRemoval (name : Bytes) : Except Errno Unit :=
  if slash ∈ name then
    if 0 ∈ parent name then .error .invalidArgument
    else if pathLimit < (parent name).length then .error .nameTooLong
    else checkParts name
  else check name

end NextBoot.FileName
