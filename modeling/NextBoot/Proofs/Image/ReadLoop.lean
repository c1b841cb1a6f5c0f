import NextBoot.Proofs.Image.ReadRun

/-! What one read promises, and what a loop of reads to the end promises, of a reader that stands
inside its payload. -/
namespace NextBoot.Image.SectionReader

theorem advance_zero (r : SectionReader) : r.advance 0 = r := rfl

theorem advance_advance (r : SectionReader) (m n : Nat) :
    (r.advance m).advance n = r.advance (m + n) := by
  simp only [advance, Nat.add_assoc]

/-- What a read of at most `size` bytes from `file` answers, and what it makes of the reader. -/
structure ReadContract (r : SectionReader) (file : Bytes) (size : Nat)
    (answer : Except IoError Bytes) (next : SectionReader) : Prop where
  /-- A closed reader fails, even where nothing remains or nothing is asked for. -/
  closed : r.closed = true → answer = .error (.sectionClosed r.payload)
  /-- A chunk holds the bytes of the file from the position on, and none past the payload. -/
  chunk : ∀ bytes, answer = .ok bytes → r.closed = false ∧ bytes.length ≤ size ∧
    bytes = file.slice (r.start + r.position) bytes.length ∧
    r.position + bytes.length ≤ r.size ∧ next = r.advance bytes.length
  failed : ∀ e, answer = .error e → next = r
  /-- Nothing is given where there is room only at the end of the payload. -/
  finished : answer = .ok [] → 0 < size → r.position = r.size
  /-- A file that ends before what is asked for is an error. -/
  truncated : r.closed = false → 0 < size → r.position < r.size →
    file.length ≤ r.start + r.position → answer = .error (.sectionTruncated r.path r.payload)
  /-- Otherwise there is an answer, and some bytes where some were asked for. -/
  given : r.closed = false →
    size = 0 ∨ r.position = r.size ∨ r.start + r.position < file.length →
    ∃ bytes, answer = .ok bytes ∧ (0 < size → r.position < r.size → bytes ≠ [])

theorem read_contract {r : SectionReader} (inside : r.position ≤ r.size) (file : Bytes)
    (size : Nat) : ReadContract r file size (r.read file size).1 (r.read file size).2 := by
  have hend := readEnd_read r file size
  generalize r.read file size = outcome at hend ⊢
  cases hend with
  | closed closed =>
    refine ⟨fun _ => rfl, ?_, fun _ _ => rfl, ?_, ?_, ?_⟩ <;> simp [closed]
  | nothing opened wanted =>
    have hw : size = 0 ∨ r.position = r.size := by
      simp only [remaining] at wanted
      omega
    refine ⟨by simp [opened], ?_, fun _ _ => rfl, fun _ hs => by omega, ?_, ?_⟩
    · intro bytes hb
      obtain rfl := Except.ok.inj hb
      exact ⟨opened, Nat.zero_le _, rfl, inside, rfl⟩
    · intro _ hs hp
      omega
    · intro _ _
      exact ⟨[], rfl, fun hs hp => by omega⟩
  | truncated opened wanted ends =>
    have hlen := congrArg List.length ends
    rw [Bytes.length_slice, List.length_nil] at hlen
    simp only [remaining] at wanted hlen
    refine ⟨by simp [opened], ?_, fun _ _ => rfl, ?_, fun _ _ _ _ => rfl, ?_⟩
    · simp
    · simp
    · intro _ hgive
      omega
  | @chunk bytes opened nonempty there =>
    have hlen := congrArg List.length there
    rw [Bytes.length_slice] at hlen
    have hpos : 0 < bytes.length := List.length_pos_iff.mpr nonempty
    have hrest : bytes.length ≤ size ∧ r.position + bytes.length ≤ r.size := by
      simp only [remaining] at hlen
      omega
    refine ⟨by simp [opened], ?_, by simp, ?_, ?_, ?_⟩
    · intro given hb
      obtain rfl := Except.ok.inj hb
      refine ⟨opened, hrest.1, ?_, hrest.2, rfl⟩
      rw [← there, Bytes.slice_length_slice]
    · intro hb
      exact absurd (Except.ok.inj hb) nonempty
    · intro _ _ _ hshort
      omega
    · intro _ _
      exact ⟨bytes, rfl, fun _ _ => nonempty⟩

/-! ### Reads to the end -/

/-- The reader after reads to the end that each meet a view of their own. -/
def afterEnd (r : SectionReader) (views : Nat → View) : SectionReader :=
  match h : r.read (views 0).file (views 0).room with
  | (.error _, next) => next
  | (.ok [], next) => next
  | (.ok (_ :: _), next) => next.afterEnd fun i => views (i + 1)
termination_by r.remaining
decreasing_by
  have hr := remaining_read h
  rw [List.length_cons] at hr
  omega

theorem next_of_read_error {r next : SectionReader} {file : Bytes} {size : Nat} {e : IoError}
    (h : r.read file size = (.error e, next)) : next = r := by
  have hend := readEnd_read r file size
  rw [h] at hend
  cases hend <;> rfl

/-- By induction on the reads: each advances the reader by what it delivers. -/
theorem afterEnd_eq (r : SectionReader) (views : Nat → View) :
    r.afterEnd views = r.advance (r.streamThrough views).delivered.length := by
  induction r, views using streamThrough.induct with
  | case1 r views cause next hread =>
    rw [streamThrough_of_error hread, afterEnd]
    split <;> simp_all [next_of_read_error hread, Stream.delivered, advance_zero]
  | case2 r views next hread =>
    rw [streamThrough_of_end hread, afterEnd]
    split <;> simp_all [next_of_read hread, Stream.delivered]
  | case3 r views b chunk next hread ih =>
    rw [streamThrough_of_chunk hread, Stream.delivered, List.length_append, ← advance_advance,
      ← next_of_read hread, ← ih, afterEnd]
    split <;> simp_all

/-- Views of one file, with room for some bytes in each. -/
def viewsOf (file : Bytes) (rooms : Nat → { n : Nat // 0 < n }) (i : Nat) : View :=
  ⟨file, rooms i, (rooms i).2⟩

/-- By induction on the reads: together they deliver what the file has of the rest of the payload. -/
theorem delivered_streamThrough_unchanged (r : SectionReader) (views : Nat → View) {file : Bytes}
    (opened : r.closed = false) (same : ∀ i, (views i).file = file) :
    (r.streamThrough views).delivered = file.slice (r.start + r.position) r.remaining := by
  induction r, views using streamThrough.induct with
  | case1 r views cause next hread =>
    rw [streamThrough_of_error hread, Stream.delivered]
    rw [same 0] at hread
    have hend := readEnd_read r file (views 0).room
    rw [hread] at hend
    cases hend with
    | closed closed => simp [closed] at opened
    | truncated _ wanted ends =>
      have hlen := congrArg List.length ends
      rw [Bytes.length_slice, List.length_nil] at hlen
      exact (Bytes.slice_of_length_le (by omega) _).symm
  | case2 r views next hread =>
    rw [streamThrough_of_end hread, remaining_of_read_nil hread, Bytes.slice, List.take_zero]
    rfl
  | case3 r views b chunk next hread ih =>
    have hnext : next.closed = false := by
      rw [next_of_read hread]
      exact opened
    rw [streamThrough_of_chunk hread, Stream.delivered, ih hnext fun i => same (i + 1)]
    rw [same 0] at hread
    exact (slice_eq_append_of_read hread).symm

/-- What reads to the end give while `file` stays as it is, and what they make of the reader. -/
structure EndContract (r : SectionReader) (file : Bytes) (chunks : Stream) (next : SectionReader) :
    Prop where
  closed : r.closed = true → chunks = [.failure (.sectionClosed r.payload)]
  /-- What is delivered are the bytes of the file from the position on, none past the payload. -/
  delivered : chunks.delivered = file.slice (r.start + r.position) chunks.delivered.length
  inside : r.position + chunks.delivered.length ≤ r.size
  advanced : next = r.advance chunks.delivered.length
  /-- Success means that all that remained has been delivered. -/
  complete : ∀ bytes, chunks.readToEnd = .ok bytes →
    bytes = file.slice (r.start + r.position) (r.size - r.position) ∧
      bytes.length = r.size - r.position
  /-- A file that ends before the payload is an error, once all that is there has been delivered. -/
  truncated : r.closed = false → r.position < r.size → file.length < r.start + r.size →
    chunks.readToEnd = .error (.sectionTruncated r.path r.payload) ∧
      chunks.delivered = file.slice (r.start + r.position) (r.size - r.position)
  /-- Otherwise it succeeds. -/
  given : r.closed = false → r.position = r.size ∨ r.start + r.size ≤ file.length →
    ∃ bytes, chunks.readToEnd = .ok bytes

theorem streamThrough_of_closed {r : SectionReader} (closed : r.closed = true)
    (views : Nat → View) : r.streamThrough views = [.failure (.sectionClosed r.payload)] := by
  have hread : r.read (views 0).file (views 0).room = (.error (.sectionClosed r.payload), r) := by
    rw [read, if_pos closed]
  exact streamThrough_of_error hread

theorem end_contract {r : SectionReader} (inside : r.position ≤ r.size) (file : Bytes)
    (rooms : Nat → { n : Nat // 0 < n }) :
    EndContract r file (r.streamThrough (viewsOf file rooms)) (r.afterEnd (viewsOf file rooms)) := by
  have hnext := afterEnd_eq r (viewsOf file rooms)
  cases hc : r.closed with
  | true =>
    have hs := streamThrough_of_closed hc (viewsOf file rooms)
    rw [hs] at hnext ⊢
    refine ⟨fun _ => rfl, rfl, inside, hnext, ?_, ?_, ?_⟩
    · intro bytes hb
      cases hb
    · simp [hc]
    · simp [hc]
  | false =>
    have hd := delivered_streamThrough_unchanged r (viewsOf file rooms) hc fun _ => rfl
    have hr : (r.streamThrough (viewsOf file rooms)).readToEnd = (r.stream file).readToEnd :=
      readToEnd_streamThrough_unchanged r (viewsOf file rooms) fun _ => rfl
    rw [readToEnd_stream hc] at hr
    have hlen := congrArg List.length hd
    rw [Bytes.length_slice] at hlen
    refine ⟨by simp [hc], ?_, ?_, hnext, ?_, ?_, ?_⟩
    · rw [hd, Bytes.slice_length_slice]
    · rw [hlen]
      simp only [remaining]
      omega
    · intro bytes hb
      rw [hb] at hr
      split at hr
      next hl =>
        obtain rfl := Except.ok.inj hr
        exact ⟨rfl, hl⟩
      next => cases hr
    · intro _ hp hshort
      refine ⟨?_, hd⟩
      rw [hr, if_neg]
      rw [Bytes.length_slice]
      simp only [remaining]
      omega
    · intro _ hgive
      rw [hr, if_pos]
      · exact ⟨_, rfl⟩
      · rw [Bytes.length_slice]
        simp only [remaining]
        omega

end NextBoot.Image.SectionReader
