import NextBoot.Kexec.Layout
import NextBoot.Stream

/-! The kernel as a loader sees it: calls with an answer to each, and files that are only in memory,
which it reads from where they stand. -/
namespace NextBoot.Kexec

inductive Call where
  /-- Load from files. The command line includes its final zero. -/
  | fileLoad (kernel initrd : Bytes) (cmdline : Option Bytes) (flags : Nat)
  | segmentLoad (segments : List Segment) (flags : Nat)
  | reboot
  deriving DecidableEq, Repr

/-- Load without checking the signature. -/
def unsafeFlag : Nat := 1

/-- The processor architecture of the segments. -/
def architectureFlag : Nat := 62 <<< 16

/-- The answer to each call, by the calls made before it, and the calls made so far. -/
structure Kernel where
  answer : List Call → Call → Except Errno Unit
  calls : List Call := []

namespace Kernel

def call (k : Kernel) (c : Call) : Except Errno Unit × Kernel :=
  (k.answer k.calls c, { k with calls := k.calls ++ [c] })

end Kernel

/-- A file without a name. -/
structure MemoryFile where
  content : Bytes := []
  /-- Where it is written and read next. -/
  position : Nat := 0
  deriving DecidableEq, Repr

namespace MemoryFile

def write (f : MemoryFile) (bytes : Bytes) : MemoryFile :=
  ⟨f.content.writeAt f.position bytes, f.position + bytes.length⟩

def rewind (f : MemoryFile) : MemoryFile := { f with position := 0 }

/-- What is read from the position on. -/
def unread (f : MemoryFile) : Bytes := f.content.drop f.position

/-- The buffer in which a stream is copied. -/
def copyRoom : { n : Nat // 0 < n } := ⟨8192, by decide⟩

/-- A copy of the stream, rewound to the start. -/
def ofStream (s : Stream) : Except IoError MemoryFile := do
  let copied ← s.drain (fun _ => copyRoom) write {}
  return copied.rewind

end MemoryFile

end NextBoot.Kexec
