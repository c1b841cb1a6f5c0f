import NextBoot.Bytes
import NextBoot.Stream

/-! A reader over one payload of an image. It sees the file as it is when read, and never past the
payload. -/
namespace NextBoot.Image

structure SectionReader where
  path : String
  payload : Payload
  start : Nat
  size : Nat
  position : Nat := 0
  closed : Bool := false
  deriving DecidableEq, Repr

namespace SectionReader

def remaining (r : SectionReader) : Nat := r.size - r.position

def close (r : SectionReader) : SectionReader := { r with closed := true }

def advance (r : SectionReader) (n : Nat) : SectionReader := { r with position := r.position + n }

/-- One read of at most `n` bytes. A file that ends inside the payload gives what it has, then
fails. -/
def read (r : SectionReader) (file : Bytes) (n : Nat) : Except IoError Bytes × SectionReader :=
  if r.closed then (.error (.sectionClosed r.payload), r)
  else
    let wanted := min n r.remaining
    if wanted = 0 then (.ok [], r)
    else
      let chunk := file.slice (r.start + r.position) wanted
      if chunk.isEmpty then (.error (.sectionTruncated r.path r.payload), r)
      else (.ok chunk, r.advance chunk.length)

/-- The ways in which a read ends. -/
inductive ReadEnd (r : SectionReader) (file : Bytes) (n : Nat) :
    Except IoError Bytes × SectionReader → Prop where
  | closed (closed : r.closed = true) : ReadEnd r file n (.error (.sectionClosed r.payload), r)
  | nothing (opened : r.closed = false) (wanted : min n r.remaining = 0) :
    ReadEnd r file n (.ok [], r)
  | truncated (opened : r.closed = false) (wanted : min n r.remaining ≠ 0)
    (ends : file.slice (r.start + r.position) (min n r.remaining) = []) :
    ReadEnd r file n (.error (.sectionTruncated r.path r.payload), r)
  | chunk {bytes : Bytes} (opened : r.closed = false) (nonempty : bytes ≠ [])
    (there : file.slice (r.start + r.position) (min n r.remaining) = bytes) :
    ReadEnd r file n (.ok bytes, r.advance bytes.length)

theorem readEnd_read (r : SectionReader) (file : Bytes) (n : Nat) :
    ReadEnd r file n (r.read file n) := by
  cases hc : r.closed with
  | true =>
    rw [read, if_pos hc]
    exact .closed hc
  | false =>
    rw [read, if_neg (by simp [hc])]
    by_cases hw : min n r.remaining = 0
    · simp only [hw, if_true]
      exact .nothing hc hw
    · simp only [hw, if_false]
      by_cases he : file.slice (r.start + r.position) (min n r.remaining) = []
      · simp only [he, List.isEmpty_nil, if_true]
        exact .truncated hc hw he
      · rw [if_neg (by simpa using he)]
        exact .chunk hc he rfl

/-- What is read is taken off what remains, which it does not exceed. -/
theorem remaining_read {r next : SectionReader} {file chunk : Bytes} {n : Nat}
    (h : r.read file n = (.ok chunk, next)) : next.remaining + chunk.length = r.remaining := by
  have hend := readEnd_read r file n
  rw [h] at hend
  cases hend with
  | nothing => rfl
  | chunk opened nonempty there =>
    have hle : chunk.length ≤ r.remaining := by
      rw [← there, Bytes.slice, List.length_take]
      omega
    simp only [remaining, advance] at hle ⊢
    omega

/-- What one read meets: the file as it is at that moment, and room for some bytes. -/
structure View where
  file : Bytes
  room : Nat
  hasRoom : 0 < room

/-- What reads to the end give where each of them meets a view of its own. -/
def streamThrough (r : SectionReader) (views : Nat → View) : Stream :=
  match h : r.read (views 0).file (views 0).room with
  | (.error cause, _) => [.failure cause]
  | (.ok [], _) => []
  | (.ok (b :: chunk), next) => .data (b :: chunk) :: next.streamThrough fun i => views (i + 1)
termination_by r.remaining
decreasing_by
  have hr := remaining_read h
  rw [List.length_cons] at hr
  omega

/-- What reads to the end give while the file stays as it is. -/
def stream (r : SectionReader) (file : Bytes) : Stream :=
  if r.closed then [.failure (.sectionClosed r.payload)]
  else
    let chunk := file.slice (r.start + r.position) r.remaining
    if chunk.length = r.remaining then [.data chunk]
    else [.data chunk, .failure (.sectionTruncated r.path r.payload)]

/-- The reader after its stream has been read to the end or to its failure. -/
def drained (r : SectionReader) (file : Bytes) : SectionReader :=
  r.advance (r.stream file).delivered.length

end SectionReader

end NextBoot.Image
