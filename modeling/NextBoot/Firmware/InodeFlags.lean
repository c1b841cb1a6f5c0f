import NextBoot.Errno

/-! The inode flags of variable files, among them the one that keeps a file from being changed. -/
namespace NextBoot.Firmware

/-- What readings of the flags answer, by the bits that were set last and the number of readings
before. Files need not have the same flags, and a reading may fail at one time and not at another. -/
structure FlagReadings where
  answer : UInt32 → Nat → Except Errno UInt32

/-- Readings that give the bits set last, or that all fail. -/
instance : Coe Bool FlagReadings where
  coe fails := ⟨fun bits _ => if fails then .error .inappropriateControl else .ok bits⟩

/-- Why a change of the flags is refused, if it is, by the changes asked for before it. -/
structure FlagChanges where
  refusal? : List UInt32 → UInt32 → Option Errno

/-- Changes that are all made, or all refused. -/
instance : Coe Bool FlagChanges where
  coe fails := ⟨fun _ _ => if fails then some .notPermitted else none⟩

/-- The flags as a device that may refuse to be read or set, with what was asked of it. -/
structure InodeFlags where
  bits : UInt32
  readings : FlagReadings
  changes : FlagChanges
  gets : Nat := 0
  sets : List UInt32 := []

namespace InodeFlags

def immutable : UInt32 := 16

def get (f : InodeFlags) : Except Errno UInt32 × InodeFlags :=
  (f.readings.answer f.bits f.gets, { f with gets := f.gets + 1 })

def set (f : InodeFlags) (bits : UInt32) : Except Errno Unit × InodeFlags :=
  let asked := { f with sets := f.sets ++ [bits] }
  match f.changes.refusal? f.sets bits with
  | some e => (.error e, asked)
  | none => (.ok (), { asked with bits })

/-- Clear the immutable flag; the answer tells whether it was set. -/
def clearImmutable (f : InodeFlags) : Except Errno Bool × InodeFlags :=
  match f.get with
  | (.error e, f) => (.error e, f)
  | (.ok bits, f) =>
    if bits &&& immutable = 0 then (.ok false, f)
    else match f.set (bits &&& ~~~immutable) with
      | (.error e, f) => (.error e, f)
      | (.ok (), f) => (.ok true, f)

def setImmutable (f : InodeFlags) : Except Errno Unit × InodeFlags :=
  match f.get with
  | (.error e, f) => (.error e, f)
  | (.ok bits, f) => f.set (bits ||| immutable)

end InodeFlags

end NextBoot.Firmware
