import Mathlib.Data.List.Forall2
import Mathlib.Data.List.Induction
import Mathlib.Data.Nat.Digits.Defs
import NextBoot.Proofs.Text.HexDigits

/-! What hexadecimal digits write. Digits of either case are read alike, and digits of one case are
what the number they write is written with. -/
namespace NextBoot.Text

/-- The sixteen digits, each at the place that is its value. -/
def digitRow : LetterCase → List Char
  | .lower => "0123456789abcdef".toList
  | .upper => "0123456789ABCDEF".toList

def IsHexDigit (c : Char) (d : Nat) : Prop := ∃ letters, (digitRow letters)[d]? = some c

/-- All digits, of both cases. -/
def hexDigits : List Char := "0123456789ABCDEFabcdef".toList

/-- The digits write the number, the last of them as its ones. -/
def Writes (digits : List Char) (n : Nat) : Prop :=
  ∃ values, List.Forall₂ IsHexDigit digits.reverse values ∧ Nat.ofDigits 16 values = n

theorem getElem?_digitRow {letters : LetterCase} {d : Nat} {c : Char} :
    (digitRow letters)[d]? = some c ↔ d < 16 ∧ hexDigit letters d = c := by
  have hrow : digitRow letters = (List.range 16).map (hexDigit letters) := by
    cases letters with
    | lower => decide +kernel
    | upper => decide +kernel
  rw [hrow, List.getElem?_map, Option.map_eq_some_iff]
  constructor
  · rintro ⟨e, he, rfl⟩
    obtain ⟨hlt, rfl⟩ := List.getElem?_eq_some_iff.mp he
    simpa using hlt
  · rintro ⟨hlt, rfl⟩
    exact ⟨d, List.getElem?_range hlt, rfl⟩

theorem mem_digitRow_iff {letters : LetterCase} {c : Char} :
    c ∈ digitRow letters ↔ ∃ d < 16, hexDigit letters d = c := by
  simp only [List.mem_iff_getElem?, getElem?_digitRow]

theorem mem_hexDigits_iff {c : Char} : c ∈ hexDigits ↔ ∃ d, IsHexDigit c d := by
  have hrows : hexDigits ⊆ digitRow .upper ++ digitRow .lower := by decide +kernel
  have hrow (letters : LetterCase) : digitRow letters ⊆ hexDigits := by
    cases letters with
    | lower => decide +kernel
    | upper => decide +kernel
  constructor
  · intro h
    rcases List.mem_append.mp (hrows h) with h | h
    · obtain ⟨d, hd⟩ := List.mem_iff_getElem?.mp h
      exact ⟨d, .upper, hd⟩
    · obtain ⟨d, hd⟩ := List.mem_iff_getElem?.mp h
      exact ⟨d, .lower, hd⟩
  · rintro ⟨d, letters, hd⟩
    exact hrow letters (List.mem_of_getElem? hd)

/-! ### Reading -/

theorem hexValue?_eq_some_iff {c : Char} {d : Nat} :
    hexValue? c = some d ↔ IsHexDigit c d := by
  constructor
  · intro h
    obtain ⟨hlt, letters, hdigit⟩ := hexDigit_of_hexValue? h
    exact ⟨letters, getElem?_digitRow.mpr ⟨hlt, hdigit⟩⟩
  · rintro ⟨letters, h⟩
    obtain ⟨hlt, rfl⟩ := getElem?_digitRow.mp h
    exact hexValue?_hexDigit letters hlt

theorem mapM_eq_some_iff_forall₂ {α β : Type} {f : α → Option β} {as : List α} {bs : List β} :
    as.mapM f = some bs ↔ List.Forall₂ (fun a b => f a = some b) as bs := by
  induction as generalizing bs with
  | nil => simp [eq_comm]
  | cons a as ih =>
    simp only [List.mapM_cons, Option.bind_eq_bind, Option.bind_eq_some_iff, Option.pure_def,
      Option.some.injEq, List.forall₂_cons_left_iff, ih]
    constructor
    · rintro ⟨b, hb, rest, hrest, rfl⟩
      exact ⟨b, rest, hb, hrest, rfl⟩
    · rintro ⟨b, rest, hb, hrest, rfl⟩
      exact ⟨b, hb, rest, hrest, rfl⟩

/-- Reading from the front, each further digit raises what was read by one place. -/
theorem foldl_eq_ofDigits_reverse (base : Nat) (values : List Nat) :
    values.foldl (fun n d => n * base + d) 0 = Nat.ofDigits base values.reverse := by
  rw [Nat.ofDigits_eq_foldr, List.foldr_reverse]
  congr 1
  funext n d
  simp [Nat.mul_comm, Nat.add_comm]

theorem natural?_eq_some_iff {cs : List Char} {n : Nat} :
    natural? 16 cs = some n ↔ cs ≠ [] ∧ Writes cs n := by
  have hdigits : (fun c d => digitBelow? 16 c = some d) = IsHexDigit := by
    funext c d
    rw [digitBelow?_sixteen, hexValue?_eq_some_iff]
  cases cs with
  | nil => simp [natural?]
  | cons c cs =>
    simp only [natural?, List.isEmpty_cons, Bool.false_eq_true, if_false, Option.map_eq_some_iff,
      mapM_eq_some_iff_forall₂, hdigits, foldl_eq_ofDigits_reverse, ne_eq, reduceCtorEq,
      not_false_eq_true, true_and]
    constructor
    · rintro ⟨values, hvalues, rfl⟩
      exact ⟨values.reverse, List.forall₂_reverse_iff.mpr hvalues, rfl⟩
    · rintro ⟨values, hvalues, rfl⟩
      refine ⟨values.reverse, List.forall₂_reverse_iff.mp ?_, ?_⟩
      · rwa [List.reverse_reverse]
      · rw [List.reverse_reverse]

theorem natural?_plus (cs : List Char) : natural? 16 ('+' :: cs) = none := by
  simp [natural?, List.mapM_cons, digitBelow?_sixteen, show hexValue? '+' = none by decide]

/-- The word of sixteen bits that these digits write, behind a plus sign that need not be there. What
does not fit in the word is refused. -/
def hexWord? (cs : List Char) : Option UInt16 :=
  let digits := match cs with
    | '+' :: digits => digits
    | digits => digits
  ((natural? 16 digits).filter (· < 2 ^ 16)).map UInt16.ofNat

/-- Up to four digits are never refused, and have no sign before them. -/
theorem hexWord?_of_natural? {cs : List Char} {n : Nat} (h : natural? 16 cs = some n)
    (short : cs.length ≤ 4) : hexWord? cs = some (UInt16.ofNat n) := by
  have hfits : n < 2 ^ 16 :=
    calc n < 16 ^ cs.length := natural?_lt h
      _ ≤ 16 ^ 4 := Nat.pow_le_pow_right (by decide) short
  unfold hexWord?
  split
  next digits =>
    rw [natural?_plus] at h
    cases h
  next => simpa [h] using hfits

/-! ### Writing -/

theorem writes_concat_iff {cs : List Char} {c : Char} {n : Nat} :
    Writes (cs ++ [c]) n ↔ ∃ m d, Writes cs m ∧ IsHexDigit c d ∧ n = m * 16 + d := by
  simp only [Writes, List.reverse_append, List.reverse_singleton, List.singleton_append,
    List.forall₂_cons_left_iff]
  constructor
  · rintro ⟨_, ⟨d, values, hd, hvalues, rfl⟩, rfl⟩
    exact ⟨_, d, ⟨values, hvalues, rfl⟩, hd, by rw [Nat.ofDigits_cons]; omega⟩
  · rintro ⟨_, d, ⟨values, hvalues, rfl⟩, hd, rfl⟩
    exact ⟨d :: values, ⟨d, values, hd, hvalues, rfl⟩, by rw [Nat.ofDigits_cons]; omega⟩

/-- Nothing but digits writes a number, and all digits write one. -/
theorem exists_writes_iff {cs : List Char} :
    (∃ n, Writes cs n) ↔ ∀ c ∈ cs, ∃ d, IsHexDigit c d := by
  induction cs using List.reverseRecOn with
  | nil => simp [Writes]
  | append_singleton cs c ih =>
    simp only [writes_concat_iff, List.forall_mem_append, List.forall_mem_singleton, ← ih]
    constructor
    · rintro ⟨_, m, d, hm, hd, -⟩
      exact ⟨⟨m, hm⟩, d, hd⟩
    · rintro ⟨⟨m, hm⟩, d, hd⟩
      exact ⟨_, m, d, hm, hd, rfl⟩

theorem mem_digitRow_of_mem_hexPadded {letters : LetterCase} {width n : Nat} {c : Char}
    (h : c ∈ hexPadded letters width n) : c ∈ digitRow letters :=
  mem_digitRow_iff.mpr (exists_hexDigit_of_mem_hexPadded h)

/-- By induction from the last digit, which is the number's remainder. -/
theorem Writes.eq_hexPadded {letters : LetterCase} {cs : List Char} {n : Nat} (h : Writes cs n)
    (row : ∀ c ∈ cs, c ∈ digitRow letters) : cs = hexPadded letters cs.length n := by
  induction cs using List.reverseRecOn generalizing n with
  | nil => rfl
  | append_singleton cs c ih =>
    obtain ⟨m, d, hm, hd, rfl⟩ := writes_concat_iff.mp h
    obtain ⟨e, he, rfl⟩ := mem_digitRow_iff.mp (row c (by simp))
    -- Reading the last digit gives one value, so the digit of this case is that of the remainder.
    rw [← hexValue?_eq_some_iff, hexValue?_hexDigit letters he, Option.some.injEq] at hd
    subst hd
    have hfront := ih hm fun c hc => row c (by simp [hc])
    rw [List.length_append, List.length_singleton, hexPadded,
      show (m * 16 + e) / 16 = m by omega, show (m * 16 + e) % 16 = e by omega, ← hfront]

end NextBoot.Text
