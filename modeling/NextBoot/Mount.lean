import NextBoot.Errno
import NextBoot.Failure

/-! Mount flags, and switching a mount between read-only and writable. -/
namespace NextBoot.Mount

def readOnlyFlag : UInt64 := 1

/-- No set-user-ID, no devices, no execution: a remount clears these unless they are given again. -/
def preservedFlags : UInt64 := 2 ||| 4 ||| 8

def remountFlags (current : UInt64) (readOnly : Bool) : UInt64 :=
  (current &&& preservedFlags) ||| (if readOnly then readOnlyFlag else 0)

/-- The flags of the mount that holds `path`, where looking it up gave `found`. -/
def flags (path : String) (found : Except Errno UInt64) : Except (Failure Errno) UInt64 :=
  found.mapError fun e => (Failure.of e).within ("Querying mount flags of " ++ path)

/-- The flags with which to remount. -/
def remount (path : String) (found : Except Errno UInt64) (readOnly : Bool) :
    Except (Failure Errno) UInt64 :=
  ((flags path found).map (remountFlags · readOnly)).mapError
    (Failure.within ("Remounting " ++ path ++ " (readonly=" ++ toString readOnly ++ ")"))

def isReadOnly (path : String) (found : Except Errno UInt64) : Except (Failure Errno) Bool :=
  (flags path found).map fun f => f &&& readOnlyFlag != 0

/-- The flags to give the mount back afterwards, if it has to be made writable first. -/
def makeWritable (path : String) (found : Except Errno UInt64) :
    Except (Failure Errno) (Option UInt64) := do
  if ← isReadOnly path found then
    let writable ← remount path found false
    return some (remountFlags writable true)
  else return none

end NextBoot.Mount
