import NextBoot.Proofs.Image.FirstHeader
import NextBoot.Proofs.Stream

/-! Reading a payload to its end while the file may change: what comes out has the length that the
reader started with, and while the file stays as it is the pieces do not matter. -/
namespace NextBoot.Image

open Bytes (AgreeOn window)

namespace SectionReader

variable {r next : SectionReader}

theorem readToEnd_stream (opened : r.closed = false) (file : Bytes) :
    (r.stream file).readToEnd =
      if (file.slice (r.start + r.position) r.remaining).length = r.remaining then
        .ok (file.slice (r.start + r.position) r.remaining)
      else .error (.sectionTruncated r.path r.payload) := by
  simp only [stream, opened, Bool.false_eq_true, if_false]
  split
  · exact Stream.readToEnd_data _
  · rfl

theorem readToEnd_stream_closed (closed : r.closed = true) (file : Bytes) :
    (r.stream file).readToEnd = .error (.sectionClosed r.payload) := by
  simp only [stream, closed, if_true]
  rfl

theorem next_of_read {file bytes : Bytes} {n : Nat} (h : r.read file n = (.ok bytes, next)) :
    next = r.advance bytes.length := by
  have hend := readEnd_read r file n
  rw [h] at hend
  cases hend with
  | nothing | chunk => rfl

theorem opened_of_read {file bytes : Bytes} {n : Nat} (h : r.read file n = (.ok bytes, next)) :
    r.closed = false := by
  have hend := readEnd_read r file n
  rw [h] at hend
  cases hend with
  | nothing opened | chunk opened => exact opened

/-- What remains of a payload begins with any chunk that is read of it. -/
theorem slice_eq_append_of_read {file bytes : Bytes} {n : Nat}
    (h : r.read file n = (.ok bytes, next)) :
    file.slice (r.start + r.position) r.remaining =
      bytes ++ file.slice (next.start + next.position) next.remaining := by
  have hbytes : file.slice (r.start + r.position) bytes.length = bytes := by
    have hend := readEnd_read r file n
    rw [h] at hend
    cases hend with
    | nothing => rfl
    | chunk _ _ there => rw [← there, Bytes.slice_length_slice]
  have hrest := remaining_read h
  have happend := Bytes.slice_append_slice file (r.start + r.position) bytes.length next.remaining
  rw [hbytes, Nat.add_comm bytes.length, hrest] at happend
  rw [← happend, next_of_read h]
  simp only [advance, Nat.add_assoc]

/-- The stream of a reader begins with any chunk that it reads. -/
theorem readToEnd_stream_of_read {file bytes : Bytes} {n : Nat}
    (h : r.read file n = (.ok bytes, next)) :
    (r.stream file).readToEnd = (next.stream file).readToEnd.map (bytes ++ ·) := by
  have opened := opened_of_read h
  have openedNext : next.closed = false := by
    rw [next_of_read h]
    exact opened
  rw [readToEnd_stream opened, readToEnd_stream openedNext, slice_eq_append_of_read h,
    List.length_append, ← remaining_read h]
  split
  next hl => rw [if_pos (by omega)]; rfl
  next hl => rw [if_neg (by omega), next_of_read h]; rfl

/-! ### Reading while the file may change -/

section StreamThrough
variable {views : Nat → View}

theorem streamThrough_of_error {cause : IoError}
    (h : r.read (views 0).file (views 0).room = (.error cause, next)) :
    r.streamThrough views = [.failure cause] := by
  rw [streamThrough]
  split <;> simp_all

theorem streamThrough_of_end (h : r.read (views 0).file (views 0).room = (.ok [], next)) :
    r.streamThrough views = [] := by
  rw [streamThrough]
  split <;> simp_all

theorem streamThrough_of_chunk {b : UInt8} {chunk : Bytes}
    (h : r.read (views 0).file (views 0).room = (.ok (b :: chunk), next)) :
    r.streamThrough views = .data (b :: chunk) :: next.streamThrough fun i => views (i + 1) := by
  rw [streamThrough]
  split <;> simp_all

end StreamThrough

/-- A read that has room gives nothing only at the end of the payload. -/
theorem remaining_of_read_nil {view : View} (h : r.read view.file view.room = (.ok [], next)) :
    r.remaining = 0 := by
  have hend := readEnd_read r view.file view.room
  have hroom := view.hasRoom
  generalize hr : r.read view.file view.room = answer at hend h
  cases hend with
  | closed | truncated => cases h
  | nothing opened wanted => omega
  | chunk opened nonempty there =>
    obtain rfl : _ = [] := Except.ok.inj (congrArg Prod.fst h)
    exact absurd rfl nonempty

/-- By induction on the reads: a stream that ends well has delivered all that remained. -/
theorem length_of_readToEnd_streamThrough (r : SectionReader) (views : Nat → View) {bytes : Bytes}
    (h : (r.streamThrough views).readToEnd = .ok bytes) : bytes.length = r.remaining := by
  induction r, views using streamThrough.induct generalizing bytes with
  | case1 r views cause next hread =>
    rw [streamThrough_of_error hread] at h
    cases h
  | case2 r views next hread =>
    rw [streamThrough_of_end hread] at h
    obtain rfl : [] = bytes := Except.ok.inj h
    exact (remaining_of_read_nil hread).symm
  | case3 r views b chunk next hread ih =>
    rw [streamThrough_of_chunk hread, Stream.readToEnd_data_cons] at h
    cases hn : (next.streamThrough fun i => views (i + 1)).readToEnd with
    | error e =>
      rw [hn] at h
      cases h
    | ok rest =>
      rw [hn] at h
      obtain rfl : b :: chunk ++ rest = bytes := Except.ok.inj h
      rw [List.length_append, ih hn, ← remaining_read hread, Nat.add_comm]

/-- By induction on the reads: while the file stays as it is, the pieces in which it is read do not
matter. -/
theorem readToEnd_streamThrough_unchanged (r : SectionReader) (views : Nat → View) {file : Bytes}
    (same : ∀ i, (views i).file = file) :
    (r.streamThrough views).readToEnd = (r.stream file).readToEnd := by
  induction r, views using streamThrough.induct with
  | case1 r views cause next hread =>
    rw [streamThrough_of_error hread]
    rw [same 0] at hread
    have hend := readEnd_read r file (views 0).room
    rw [hread] at hend
    cases hend with
    | closed closed => exact (readToEnd_stream_closed closed file).symm
    | truncated opened wanted ends =>
      have hnone := congrArg List.length ends
      rw [Bytes.length_slice, List.length_nil] at hnone
      rw [readToEnd_stream opened, if_neg (by rw [Bytes.length_slice]; omega)]
      rfl
  | case2 r views next hread =>
    rw [streamThrough_of_end hread]
    rw [readToEnd_stream (opened_of_read hread), remaining_of_read_nil hread, Bytes.slice,
      List.take_zero]
    rfl
  | case3 r views b chunk next hread ih =>
    rw [streamThrough_of_chunk hread, Stream.readToEnd_data_cons, ih fun i => same (i + 1)]
    rw [same 0] at hread
    exact (readToEnd_stream_of_read hread).symm

end SectionReader

/-! ### The reader that a header gives -/

/-- What a fresh reader gives depends on the bytes of its payload only. -/
theorem SectionHeader.stream_reader_congr {f g : Bytes} {x : SectionHeader}
    (h : AgreeOn (window x.offset x.payloadSize) f g) (path : String) (p : Payload) :
    (x.reader path p).stream f = (x.reader path p).stream g := by
  have hs : f.slice x.offset x.payloadSize = g.slice x.offset x.payloadSize := h.slice_eq
  simp [SectionReader.stream, SectionHeader.reader, SectionReader.remaining, hs]

theorem SectionHeader.stream_reader {f : Bytes} {x : SectionHeader} (h : x.finish ≤ f.length)
    (path : String) (p : Payload) :
    (x.reader path p).stream f = [.data (f.slice x.offset x.payloadSize)] := by
  have hl : (f.slice x.offset x.payloadSize).length = x.payloadSize := Bytes.length_slice_of_le h
  simp only [SectionReader.stream, SectionHeader.reader, SectionReader.remaining, Nat.add_zero,
    Nat.sub_zero, hl]
  rfl

/-- In whatever pieces it is read, while the file stays as it is the payload is read whole. -/
theorem SectionHeader.readToEnd_reader {f : Bytes} {x : SectionHeader} (h : x.finish ≤ f.length)
    (path : String) (p : Payload) {views : Nat → SectionReader.View}
    (same : ∀ i, (views i).file = f) :
    ((x.reader path p).streamThrough views).readToEnd = .ok (f.slice x.offset x.payloadSize) := by
  rw [SectionReader.readToEnd_streamThrough_unchanged _ _ same, x.stream_reader h,
    Stream.readToEnd_data]

end NextBoot.Image
