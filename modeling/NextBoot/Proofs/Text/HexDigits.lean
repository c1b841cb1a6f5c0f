import Mathlib.Algebra.Ring.Nat
import NextBoot.Text.Number

/-! Numbers that are written with a fixed number of hexadecimal digits, and read again. -/
namespace NextBoot.Text

theorem digitBelow?_lt {base d : Nat} {c : Char} (h : digitBelow? base c = some d) : d < base := by
  rw [digitBelow?, Option.filter_eq_some_iff] at h
  exact of_decide_eq_true h.2

/-- By induction on the digits: each adds less than one to the number before it. -/
theorem foldl_mapM_lt {base : Nat} {cs : List Char} {digits : List Nat}
    (read : cs.mapM (digitBelow? base) = some digits) (first : Nat) :
    digits.foldl (fun n d => n * base + d) first < (first + 1) * base ^ cs.length := by
  induction cs generalizing digits first with
  | nil =>
    obtain rfl : [] = digits := Option.some.inj read
    simp
  | cons c cs ih =>
    rw [List.mapM_cons] at read
    obtain ⟨d, hd, rest, hrest, rfl⟩ : ∃ d, digitBelow? base c = some d ∧
        ∃ rest, cs.mapM (digitBelow? base) = some rest ∧ d :: rest = digits := by
      simpa [Option.bind_eq_some_iff] using read
    have hlt := digitBelow?_lt hd
    calc rest.foldl (fun n d => n * base + d) (first * base + d)
        < (first * base + d + 1) * base ^ cs.length := ih hrest _
      _ ≤ (first * base + base) * base ^ cs.length := Nat.mul_le_mul_right _ (by omega)
      _ = (first + 1) * base ^ (cs.length + 1) := by
        rw [Nat.pow_succ', ← Nat.mul_assoc, Nat.add_mul first 1 base, Nat.one_mul]

theorem natural?_lt {base n : Nat} {cs : List Char} (h : natural? base cs = some n) :
    n < base ^ cs.length := by
  rw [natural?] at h
  split at h
  · cases h
  · obtain ⟨digits, hread, rfl⟩ := Option.map_eq_some_iff.mp h
    simpa using foldl_mapM_lt hread 0

/-- Within each of the three ranges a digit is its value above the first of them. -/
theorem hexDigit_of_hexValue? {c : Char} {d : Nat} (h : hexValue? c = some d) :
    d < 16 ∧ ∃ letters, hexDigit letters d = c := by
  have hchar {n : Nat} (hn : n = c.toNat) : Char.ofNat n = c := by rw [hn, Char.ofNat_toNat]
  simp only [hexValue?] at h
  split_ifs at h with hten hupper hlower
  · obtain rfl := Option.some.inj h
    refine ⟨by omega, .lower, ?_⟩
    rw [hexDigit, if_pos (by omega)]
    exact hchar (by omega)
  · obtain rfl := Option.some.inj h
    refine ⟨by omega, .upper, ?_⟩
    rw [hexDigit, if_neg (by omega)]
    exact hchar (by omega)
  · obtain rfl := Option.some.inj h
    refine ⟨by omega, .lower, ?_⟩
    rw [hexDigit, if_neg (by omega)]
    exact hchar (by omega)

theorem digitBelow?_sixteen (c : Char) : digitBelow? 16 c = hexValue? c := by
  cases hv : hexValue? c with
  | none => rw [digitBelow?, hv, Option.filter_none]
  | some n =>
    have hn : n < 16 := (hexDigit_of_hexValue? hv).1
    rw [digitBelow?, hv, Option.filter_some_pos (by simpa using hn)]

/-- By induction on the digits, of which the last is the number's remainder. -/
theorem exists_mapM_hexPadded (letters : LetterCase) (width n : Nat) :
    ∃ digits, (hexPadded letters width n).mapM (digitBelow? 16) = some digits ∧
      digits.foldl (fun n d => n * 16 + d) 0 = n % 16 ^ width := by
  induction width generalizing n with
  | zero => exact ⟨[], rfl, by simp [Nat.mod_one]⟩
  | succ width ih =>
    obtain ⟨digits, hread, hvalue⟩ := ih (n / 16)
    have hlast := hexValue?_hexDigit letters (Nat.mod_lt n (show 0 < 16 by decide))
    refine ⟨digits ++ [n % 16], ?_, ?_⟩
    · simp [hexPadded, List.mapM_append, hread, digitBelow?_sixteen, hlast]
    · rw [List.foldl_append, hvalue, Nat.pow_succ', Nat.mod_mul, List.foldl_cons, List.foldl_nil]
      omega

theorem natural?_hexPadded (letters : LetterCase) (width n : Nat) :
    natural? 16 (hexPadded letters (width + 1) n) = some (n % 16 ^ (width + 1)) := by
  obtain ⟨digits, hread, hvalue⟩ := exists_mapM_hexPadded letters (width + 1) n
  have hne : (hexPadded letters (width + 1) n).isEmpty = false := by simp [hexPadded]
  rw [natural?, hne, hread, Option.map_some, hvalue]
  rfl

/-- The digits tell apart all numbers that differ in them. -/
theorem hexPadded_inj {letters : LetterCase} {width m n : Nat}
    (h : hexPadded letters width m = hexPadded letters width n) :
    m % 16 ^ width = n % 16 ^ width := by
  obtain ⟨digits, hread, hvalue⟩ := exists_mapM_hexPadded letters width m
  obtain ⟨digits', hread', hvalue'⟩ := exists_mapM_hexPadded letters width n
  rw [h, hread'] at hread
  rw [← hvalue, ← hvalue', Option.some.inj hread]

theorem exists_hexDigit_of_mem_hexPadded {letters : LetterCase} {width n : Nat} {c : Char}
    (h : c ∈ hexPadded letters width n) : ∃ d < 16, hexDigit letters d = c := by
  induction width generalizing n with
  | zero => cases h
  | succ width ih =>
    rcases List.mem_append.mp h with h | h
    · exact ih h
    · exact ⟨n % 16, Nat.mod_lt _ (by decide), (List.mem_singleton.mp h).symm⟩

theorem isSome_hexValue?_of_mem_hexPadded {letters : LetterCase} {width n : Nat} {c : Char}
    (h : c ∈ hexPadded letters width n) : (hexValue? c).isSome := by
  obtain ⟨d, hd, rfl⟩ := exists_hexDigit_of_mem_hexPadded h
  rw [hexValue?_hexDigit letters hd]
  rfl

end NextBoot.Text
