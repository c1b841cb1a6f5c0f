import NextBoot.Proofs.Text.EncodedZeros

/-! What the parts of decoded bytes were read from. A character is only ever read from what it is
written as, so decoded text that holds no replacement is encoded text again. -/
namespace NextBoot.Text.Utf8

/-! ### Characters of two, three and four bytes -/

section Bytes
variable {a b c d : UInt8}

theorem encodeChar_two (ha : 0xC2 ≤ a.toNat) (ha' : a.toNat < 0xE0) (hb : 0x80 ≤ b.toNat)
    (hb' : b.toNat ≤ 0xBF) :
    String.utf8EncodeChar (Char.ofNat ((a.toNat - 0xC0) * 64 + b.toNat % 64)) = [a, b] := by
  generalize hn : (a.toNat - 0xC0) * 64 + b.toNat % 64 = n
  have hvalid : n.isValidChar := by
    unfold Nat.isValidChar
    omega
  have hval : (Char.ofNat n).val.toNat = n := toNat_ofNat hvalid
  unfold String.utf8EncodeChar
  simp only [hval]
  rw [if_neg (by omega), if_pos (by omega)]
  simp only [List.cons.injEq, and_true]
  refine ⟨?_, ?_⟩ <;> apply UInt8.toNat_inj.mp <;> simp only [UInt8.toNat_ofNat'] <;> omega

theorem encodeChar_three (ha : 0xE0 ≤ a.toNat) (ha' : a.toNat < 0xF0)
    (hb : (if a.toNat = 0xE0 then 0xA0 else 0x80) ≤ b.toNat)
    (hb' : b.toNat ≤ if a.toNat = 0xED then 0x9F else 0xBF)
    (hc : 0x80 ≤ c.toNat) (hc' : c.toNat ≤ 0xBF) :
    String.utf8EncodeChar
      (Char.ofNat (((a.toNat - 0xE0) * 64 + b.toNat % 64) * 64 + c.toNat % 64)) = [a, b, c] := by
  generalize hn : ((a.toNat - 0xE0) * 64 + b.toNat % 64) * 64 + c.toNat % 64 = n
  have hvalid : n.isValidChar := by
    unfold Nat.isValidChar
    split at hb <;> split at hb' <;> omega
  have hb₀ : 0x80 ≤ b.toNat ∧ b.toNat ≤ 0xBF := by
    split at hb <;> split at hb' <;> omega
  have hsize : 0x7FF < n := by
    split at hb <;> omega
  have hval : (Char.ofNat n).val.toNat = n := toNat_ofNat hvalid
  clear hb hb' hvalid
  unfold String.utf8EncodeChar
  simp only [hval]
  rw [if_neg (by omega), if_neg (by omega), if_pos (by omega)]
  simp only [List.cons.injEq, and_true]
  refine ⟨?_, ?_, ?_⟩ <;> apply UInt8.toNat_inj.mp <;> simp only [UInt8.toNat_ofNat'] <;> omega

theorem encodeChar_four (ha : 0xF0 ≤ a.toNat) (ha' : a.toNat < 0xF5)
    (hb : (if a.toNat = 0xF0 then 0x90 else 0x80) ≤ b.toNat)
    (hb' : b.toNat ≤ if a.toNat = 0xF4 then 0x8F else 0xBF)
    (hc : 0x80 ≤ c.toNat) (hc' : c.toNat ≤ 0xBF) (hd : 0x80 ≤ d.toNat) (hd' : d.toNat ≤ 0xBF) :
    String.utf8EncodeChar (Char.ofNat
      ((((a.toNat - 0xF0) * 64 + b.toNat % 64) * 64 + c.toNat % 64) * 64 + d.toNat % 64)) =
      [a, b, c, d] := by
  generalize hn :
    (((a.toNat - 0xF0) * 64 + b.toNat % 64) * 64 + c.toNat % 64) * 64 + d.toNat % 64 = n
  have hvalid : n.isValidChar := by
    unfold Nat.isValidChar
    split at hb <;> split at hb' <;> omega
  have hb₀ : 0x80 ≤ b.toNat ∧ b.toNat ≤ 0xBF := by
    split at hb <;> split at hb' <;> omega
  have hsize : 0xFFFF < n := by
    split at hb <;> omega
  have hval : (Char.ofNat n).val.toNat = n := toNat_ofNat hvalid
  clear hb hb' hvalid
  unfold String.utf8EncodeChar
  simp only [hval]
  rw [if_neg (by omega), if_neg (by omega), if_neg (by omega)]
  simp only [List.cons.injEq, and_true]
  refine ⟨?_, ?_, ?_, ?_⟩ <;> apply UInt8.toNat_inj.mp <;> simp only [UInt8.toNat_ofNat'] <;> omega

end Bytes

/-! ### Parts -/

/-- The bytes as the parts they are read in, newest first: each character from what it is written as,
and an ill-formed part from whatever it is. -/
inductive Parts : Bytes → List (Option Char) → Prop
  | nil : Parts [] []
  | char {bytes : Bytes} {parts : List (Option Char)} (c : Char) :
      Parts bytes parts → Parts (bytes ++ String.utf8EncodeChar c) (some c :: parts)
  | ill {bytes : Bytes} {parts : List (Option Char)} (part : Bytes) :
      Parts bytes parts → Parts (bytes ++ part) (none :: parts)

/-- A tail whose first byte is in a range and whose others may be anywhere in a character but at its
start. -/
def Continues (low high : Nat) : Bytes → Prop
  | [] => True
  | b :: rest => low ≤ b.toNat ∧ b.toNat ≤ high ∧ ∀ c ∈ rest, 0x80 ≤ c.toNat ∧ c.toNat ≤ 0xBF

/-- What has been read of a sequence: with any bytes that it still takes, it is what the character of
its value is written as. -/
structure Begun (read : Bytes) (q : Sequence) : Prop where
  missing : 0 < q.missing
  low : 0x80 ≤ q.low
  completes : ∀ tail : Bytes, tail.length = q.missing → Continues q.low q.high tail →
    String.utf8EncodeChar (Char.ofNat (tail.foldl (fun v b => v * 64 + b.toNat % 64) q.value)) =
      read ++ tail

theorem Begun.next {read : Bytes} {q : Sequence} {b : UInt8} (begun : Begun read q)
    (low : q.low ≤ b.toNat) (high : b.toNat ≤ q.high) (more : 1 < q.missing) :
    Begun (read ++ [b]) ⟨q.missing - 1, q.value * 64 + b.toNat % 64, 0x80, 0xBF⟩ where
  missing := by
    show 0 < q.missing - 1
    omega
  low := Nat.le_refl _
  completes tail hlength htail := by
    have hmore := begun.completes (b :: tail) (by simp only [List.length_cons, hlength]; omega)
      ⟨low, high, ?_⟩
    · rw [List.append_assoc]
      exact hmore
    · cases tail with
      | nil => nofun
      | cons c rest => exact List.forall_mem_cons.mpr ⟨⟨htail.1, htail.2.1⟩, htail.2.2⟩

theorem Begun.last {read : Bytes} {q : Sequence} {b : UInt8} (begun : Begun read q)
    (low : q.low ≤ b.toNat) (high : b.toNat ≤ q.high) (one : q.missing ≤ 1) :
    String.utf8EncodeChar (Char.ofNat (q.value * 64 + b.toNat % 64)) = read ++ [b] := by
  have hmissing := begun.missing
  exact begun.completes [b] (by simp only [List.length_singleton]; omega) ⟨low, high, nofun⟩

theorem begun_two {a : UInt8} (ha : 0xC2 ≤ a.toNat) (ha' : a.toNat < 0xE0) :
    Begun [a] ⟨1, a.toNat - 0xC0, 0x80, 0xBF⟩ where
  missing := Nat.succ_pos _
  low := Nat.le_refl _
  completes tail hlength htail := by
    match tail, hlength with
    | [b], _ => exact encodeChar_two ha ha' htail.1 htail.2.1

theorem begun_three {a : UInt8} (ha : 0xE0 ≤ a.toNat) (ha' : a.toNat < 0xF0) :
    Begun [a] ⟨2, a.toNat - 0xE0, if a.toNat = 0xE0 then 0xA0 else 0x80,
      if a.toNat = 0xED then 0x9F else 0xBF⟩ where
  missing := Nat.succ_pos _
  low := by dsimp only; split <;> decide
  completes tail hlength htail := by
    match tail, hlength with
    | [b, c], _ =>
      obtain ⟨hb, hb', hrest⟩ := htail
      obtain ⟨hc, hc'⟩ := hrest c (by simp)
      exact encodeChar_three ha ha' hb hb' hc hc'

theorem begun_four {a : UInt8} (ha : 0xF0 ≤ a.toNat) (ha' : a.toNat < 0xF5) :
    Begun [a] ⟨3, a.toNat - 0xF0, if a.toNat = 0xF0 then 0x90 else 0x80,
      if a.toNat = 0xF4 then 0x8F else 0xBF⟩ where
  missing := Nat.succ_pos _
  low := by dsimp only; split <;> decide
  completes tail hlength htail := by
    match tail, hlength with
    | [b, c, d], _ =>
      obtain ⟨hb, hb', hrest⟩ := htail
      obtain ⟨hc, hc'⟩ := hrest c (by simp)
      obtain ⟨hd, hd'⟩ := hrest d (by simp)
      exact encodeChar_four ha ha' hb hb' hc hc' hd hd'

/-! ### Reading -/

/-- Where a scan stands after these bytes: between two parts, or within one. -/
inductive Reads : Scan → Bytes → Prop
  | between {bytes : Bytes} {parts : List (Option Char)} : Parts bytes parts →
      Reads ⟨none, parts⟩ bytes
  | within {bytes read : Bytes} {parts : List (Option Char)} {q : Sequence} : Parts bytes parts →
      Begun read q → Reads ⟨some q, parts⟩ (bytes ++ read)

theorem reads_lead {bytes : Bytes} {parts : List (Option Char)} (hparts : Parts bytes parts)
    (a : UInt8) : Reads (Scan.lead ⟨none, parts⟩ a.toNat) (bytes ++ [a]) := by
  unfold Scan.lead
  split
  next ascii =>
    have hvalid : a.toNat.isValidChar := by
      unfold Nat.isValidChar
      omega
    have hval : (Char.ofNat a.toNat).val.toNat = a.toNat := toNat_ofNat hvalid
    have hencode : String.utf8EncodeChar (Char.ofNat a.toNat) = [a] := by
      unfold String.utf8EncodeChar
      simp only [hval]
      rw [if_pos (by omega), UInt8.ofNat_toNat]
    rw [← hencode]
    exact .between (hparts.char _)
  split
  next => exact .between (hparts.ill _)
  split
  next => exact .within hparts (begun_two (by omega) (by omega))
  split
  next => exact .within hparts (begun_three (by omega) (by omega))
  split
  next => exact .within hparts (begun_four (by omega) (by omega))
  next => exact .between (hparts.ill _)

theorem Reads.feed {s : Scan} {bytes : Bytes} (h : Reads s bytes) (b : UInt8) :
    Reads (s.feed b) (bytes ++ [b]) := by
  cases h with
  | between hparts => exact reads_lead hparts b
  | @within done read parts q hparts begun =>
    simp only [Scan.feed]
    split
    next inRange =>
      split
      next one =>
        rw [List.append_assoc, ← begun.last inRange.1 inRange.2 one]
        exact .between (hparts.char _)
      next more =>
        rw [List.append_assoc]
        exact .within hparts (begun.next inRange.1 inRange.2 (by omega))
    next => exact reads_lead (hparts.ill read) b

/-- By induction on the bytes, the last one at a time. -/
theorem reads_foldl (bytes : Bytes) : Reads (bytes.foldl Scan.feed Scan.initial) bytes := by
  induction bytes using List.reverseRecOn with
  | nil => exact .between .nil
  | append_singleton bytes b ih =>
    rw [List.foldl_append, List.foldl_cons, List.foldl_nil]
    exact ih.feed b

theorem parts_scan (bytes : Bytes) : Parts bytes (scan bytes).reverse := by
  have h := reads_foldl bytes
  unfold scan
  generalize bytes.foldl Scan.feed Scan.initial = s at h
  cases h with
  | between hparts => simpa only [Scan.finish, List.reverse_reverse] using hparts
  | within hparts _ => simpa only [Scan.finish, List.reverse_reverse] using hparts.ill _

/-! ### The end of decoded text -/

/-- By induction on the characters at the end, the last one at a time. -/
theorem Parts.exists_front {bytes : Bytes} {cs : List Char} {rest : List (Option Char)}
    (h : Parts bytes ((cs.map some).reverse ++ rest)) :
    ∃ front, Parts front rest ∧ bytes = front ++ cs.flatMap String.utf8EncodeChar := by
  induction cs using List.reverseRecOn generalizing bytes with
  | nil => exact ⟨bytes, by simpa using h, by simp⟩
  | append_singleton cs c ih =>
    rw [List.map_append, List.reverse_append, List.map_singleton, List.reverse_singleton,
      List.singleton_append, List.cons_append] at h
    cases h with
    | char _ hparts =>
      obtain ⟨front, hfront, rfl⟩ := ih hparts
      exact ⟨front, hfront, by simp⟩

theorem eq_map_some_of_mapM {parts : List (Option Char)} {cs : List Char}
    (h : parts.mapM id = some cs) : parts = cs.map some := by
  induction parts generalizing cs with
  | nil =>
    cases h
    rfl
  | cons part parts ih =>
    rw [List.mapM_cons, Option.bind_eq_bind] at h
    obtain ⟨c, hpart, h⟩ := Option.bind_eq_some_iff.mp h
    rw [Option.bind_eq_bind] at h
    obtain ⟨rest, hrest, hcs⟩ := Option.bind_eq_some_iff.mp h
    obtain rfl : c :: rest = cs := Option.some.inj hcs
    rw [ih hrest, List.map_cons, ← hpart, id]

/-- Only what a text is written as is decoded to the text. -/
theorem decode?_eq_some_iff {bytes : Bytes} {s : String} :
    decode? bytes = some s ↔ bytes = encode s := by
  constructor
  · intro h
    obtain ⟨cs, hcs, rfl⟩ := Option.map_eq_some_iff.mp h
    have hscan := eq_map_some_of_mapM hcs
    have hparts := parts_scan bytes
    rw [hscan, ← List.append_nil (cs.map some).reverse] at hparts
    obtain ⟨front, hnone, hbytes⟩ := hparts.exists_front
    cases hnone
    rw [hbytes, encode, String.toList_ofList, List.nil_append]
  · rintro rfl
    exact decode?_encode s

/-- What decoded text ends in was written there, if it is no replacement of an ill-formed part. -/
theorem exists_front_of_decodeLossy {bytes : Bytes} {front cs : List Char}
    (h : (decodeLossy bytes).toList = front ++ cs) (whole : '\uFFFD' ∉ cs) :
    ∃ before, bytes = before ++ cs.flatMap String.utf8EncodeChar := by
  rw [decodeLossy, String.toList_ofList, List.map_eq_append_iff] at h
  obtain ⟨first, last, hscan, -, hlast⟩ := h
  have hkept : ∀ part ∈ last, id part = (some ∘ (Option.getD · '\uFFFD')) part := by
    intro part hpart
    cases part with
    | some c => rfl
    | none => exact absurd (hlast ▸ List.mem_map_of_mem hpart) whole
  have hsome : last = cs.map some := by
    calc last = last.map id := (List.map_id last).symm
      _ = last.map (some ∘ (Option.getD · '\uFFFD')) := List.map_congr_left hkept
      _ = cs.map some := by rw [← List.map_map, hlast]
  have hparts := parts_scan bytes
  rw [hscan, hsome, List.reverse_append] at hparts
  obtain ⟨before, -, hbytes⟩ := hparts.exists_front
  exact ⟨before, hbytes⟩

theorem Reads.exists_feed_zero {s : Scan} {bytes : Bytes} (h : Reads s bytes) :
    ∃ parts, s.feed 0 = ⟨none, some nul :: parts⟩ := by
  cases h with
  | between _ => exact ⟨_, rfl⟩
  | @within _ _ parts q _ begun =>
    have hlow := begun.low
    have hout : ¬(q.low ≤ (0 : UInt8).toNat ∧ (0 : UInt8).toNat ≤ q.high) := by
      rw [UInt8.toNat_zero]
      omega
    refine ⟨none :: parts, ?_⟩
    simp only [Scan.feed, if_neg hout]
    rfl

/-- A zero byte is a NUL wherever it stands, and what is written behind it is read as it is. -/
theorem exists_decodeLossy_zero (front : Bytes) (s : String) :
    ∃ before, (decodeLossy (front ++ 0 :: encode s)).toList = before ++ nul :: s.toList := by
  obtain ⟨parts, hzero⟩ := (reads_foldl front).exists_feed_zero
  refine ⟨parts.reverse.map (Option.getD · '\uFFFD'), ?_⟩
  rw [decodeLossy, String.toList_ofList, scan, List.foldl_append, List.foldl_cons, hzero, encode,
    Scan.foldl_feed_encode]
  simp [Scan.finish, Function.comp_def]

end NextBoot.Text.Utf8
