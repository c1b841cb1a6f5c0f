import NextBoot.Stream

/-! What reading a stream to its end gives, at once and piece by piece. -/
namespace NextBoot.Stream

theorem readToEnd_of_failure {s : Stream} {cause : IoError} (h : s.failure? = some cause) :
    s.readToEnd = .error cause := by
  simp only [readToEnd, h]

theorem readToEnd_of_no_failure {s : Stream} (h : s.failure? = none) :
    s.readToEnd = .ok s.delivered := by
  simp only [readToEnd, h]

theorem readToEnd_data_cons (bytes : Bytes) (s : Stream) :
    readToEnd (.data bytes :: s) = s.readToEnd.map (bytes ++ ·) := by
  simp only [readToEnd, failure?]
  cases s.failure? <;> rfl

@[simp] theorem readToEnd_data (bytes : Bytes) : readToEnd [.data bytes] = .ok bytes := by
  simp [readToEnd, failure?, delivered]

/-! ### Piece by piece -/

/-- What one read tells of all that is still to be read. -/
inductive ReadEnd (s : Stream) : Chunk × Stream → Prop where
  | finished {rest : Stream} (nothing : s.readToEnd = .ok []) : ReadEnd s (.data [], rest)
  | interrupted {rest : Stream} (same : s.readToEnd = rest.readToEnd) :
    ReadEnd s (.interrupted, rest)
  | failed {cause : IoError} {rest : Stream} (fails : s.readToEnd = .error cause) :
    ReadEnd s (.failure cause, rest)
  | chunk {bytes : Bytes} {rest : Stream} (nonempty : bytes ≠ [])
    (begins : s.readToEnd = rest.readToEnd.map (bytes ++ ·)) : ReadEnd s (.data bytes, rest)

theorem ReadEnd.congr {s t : Stream} {answer : Chunk × Stream} (h : ReadEnd s answer)
    (same : t.readToEnd = s.readToEnd) : ReadEnd t answer := by
  cases h with
  | finished nothing => exact .finished (same.trans nothing)
  | interrupted other => exact .interrupted (same.trans other)
  | failed fails => exact .failed (same.trans fails)
  | chunk nonempty begins => exact .chunk nonempty (same.trans begins)

theorem readEnd_read (room : { n : Nat // 0 < n }) (s : Stream) : ReadEnd s (s.read room) := by
  induction s with
  | nil => exact .finished rfl
  | cons piece rest ih =>
    cases piece with
    | data bytes =>
      unfold read
      split
      next hnone =>
        apply ih.congr
        rw [List.isEmpty_iff.mp hnone, readToEnd_data_cons]
        cases readToEnd rest <;> rfl
      next hsome =>
        have hbytes : bytes ≠ [] := by simpa using hsome
        split
        next => exact .chunk hbytes (readToEnd_data_cons bytes rest)
        next =>
          refine .chunk ?_ ?_
          · have hroom := room.property
            simp only [ne_eq, List.take_eq_nil_iff, not_or]
            exact ⟨by omega, hbytes⟩
          · rw [readToEnd_data_cons, readToEnd_data_cons]
            cases readToEnd rest with
            | error cause => rfl
            | ok later => simp [Except.map, ← List.append_assoc]
    | interrupted => exact .interrupted rfl
    | failure cause => exact .failed rfl

section Drain
variable {σ : Type} {room : σ → { n : Nat // 0 < n }} {take : σ → Bytes → σ} {held : σ}
  {s rest : Stream}

theorem drain_of_failure {cause : IoError} (h : s.read (room held) = (.failure cause, rest)) :
    s.drain room take held = .error cause := by
  rw [drain]
  split <;> simp_all

theorem drain_of_interrupted (h : s.read (room held) = (.interrupted, rest)) :
    s.drain room take held = rest.drain room take held := by
  rw [drain]
  split <;> simp_all

theorem drain_of_end (h : s.read (room held) = (.data [], rest)) :
    s.drain room take held = .ok held := by
  rw [drain]
  split <;> simp_all

theorem drain_of_chunk {b : UInt8} {bytes : Bytes}
    (h : s.read (room held) = (.data (b :: bytes), rest)) :
    s.drain room take held = rest.drain room take (take held (b :: bytes)) := by
  rw [drain]
  split <;> simp_all

end Drain

/-- By induction on the reads: whatever room each of them has, all that the stream delivers is taken
in. What is held at any time is the `view` of the bytes that were taken in so far. -/
theorem drain_eq {σ : Type} (room : σ → { n : Nat // 0 < n }) (take : σ → Bytes → σ)
    (view : Bytes → σ) (grows : ∀ before chunk, take (view before) chunk = view (before ++ chunk))
    (before : Bytes) (s : Stream) :
    s.drain room take (view before) = s.readToEnd.map fun bytes => view (before ++ bytes) := by
  generalize hheld : view before = held
  induction held, s using drain.induct room take generalizing before with
  | case1 held s cause rest hread =>
    have hend := readEnd_read (room held) s
    rw [hread] at hend
    cases hend with
    | failed fails =>
      rw [drain_of_failure hread, fails]
      rfl
  | case2 held s rest hread _ ih =>
    have hend := readEnd_read (room held) s
    rw [hread] at hend
    cases hend with
    | interrupted same => rw [drain_of_interrupted hread, same, ih before hheld]
  | case3 held s rest hread =>
    have hend := readEnd_read (room held) s
    rw [hread] at hend
    cases hend with
    | finished nothing =>
      rw [drain_of_end hread, nothing, ← hheld]
      simp [Except.map]
    | chunk nonempty => exact absurd rfl nonempty
  | case4 held s b bytes rest hread _ ih =>
    have hend := readEnd_read (room held) s
    rw [hread] at hend
    cases hend with
    | chunk nonempty begins =>
      have htaken : view (before ++ b :: bytes) = take held (b :: bytes) := by
        rw [← grows, hheld]
      rw [drain_of_chunk hread, begins, ih _ htaken]
      cases rest.readToEnd with
      | error cause => rfl
      | ok later => simp [Except.map]

/-- A buffer ends up with all that the stream delivers. -/
theorem collect_eq_readToEnd (s : Stream) : s.collect = s.readToEnd := by
  have hdrain := drain_eq growingRoom (· ++ ·) id (fun _ _ => rfl) [] s
  apply hdrain.trans
  cases s.readToEnd <;> rfl

end NextBoot.Stream
