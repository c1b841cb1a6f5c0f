import Mathlib.Computability.RegularExpressions
import NextBoot.Proofs.Firmware.SecureBootState
import NextBoot.Proofs.Text.Numerals

/-! Which names are those of boot entries. They are the texts of one pattern, from end to end, and the
digits in them are then read as a word, which never fails. -/
namespace NextBoot.Text

/-- These characters, one after the other. -/
def literal (cs : List Char) : RegularExpression Char := (cs.map .char).prod

/-- One of these characters. -/
def anyOf (cs : List Char) : RegularExpression Char := (cs.map .char).sum

theorem mem_literal_iff {cs text : List Char} : text ∈ (literal cs).matches' ↔ text = cs := by
  induction cs generalizing text with
  | nil => exact Language.mem_one text
  | cons c cs ih =>
    rw [literal, List.map_cons, List.prod_cons, RegularExpression.matches'_mul, Language.mem_mul]
    constructor
    · rintro ⟨_, rfl, rest, hrest, rfl⟩
      rw [ih.mp hrest]
      rfl
    · rintro rfl
      exact ⟨[c], rfl, cs, ih.mpr rfl, rfl⟩

theorem mem_anyOf_iff {cs text : List Char} :
    text ∈ (anyOf cs).matches' ↔ ∃ c ∈ cs, text = [c] := by
  induction cs with
  | nil => simp [anyOf]
  | cons c cs ih =>
    rw [anyOf, List.map_cons, List.sum_cons, RegularExpression.matches'_add, Language.mem_add,
      ← anyOf, ih, List.exists_mem_cons_iff]
    rfl

theorem mem_anyOf_pow_iff {cs text : List Char} {n : Nat} :
    text ∈ (anyOf cs ^ n).matches' ↔ text.length = n ∧ ∀ c ∈ text, c ∈ cs := by
  rw [RegularExpression.matches'_pow]
  induction n generalizing text with
  | zero =>
    rw [pow_zero, Language.mem_one, List.length_eq_zero_iff, iff_self_and]
    rintro rfl
    exact List.forall_mem_nil _
  | succ n ih =>
    rw [pow_succ', Language.mem_mul]
    constructor
    · rintro ⟨_, hfirst, rest, hrest, rfl⟩
      obtain ⟨c, hc, rfl⟩ := mem_anyOf_iff.mp hfirst
      obtain ⟨hsize, hclass⟩ := ih.mp hrest
      exact ⟨by simp [hsize], List.forall_mem_cons.mpr ⟨hc, hclass⟩⟩
    · rintro ⟨hsize, hclass⟩
      obtain ⟨c, rest, rfl⟩ := List.exists_cons_of_length_eq_add_one hsize
      obtain ⟨hc, hrest⟩ := List.forall_mem_cons.mp hclass
      exact ⟨[c], mem_anyOf_iff.mpr ⟨c, hc, rfl⟩, rest, ih.mpr ⟨by simpa using hsize, hrest⟩, rfl⟩

end NextBoot.Text

namespace NextBoot.Firmware

/-- `Boot` and four digits, each of either case. -/
def entryPattern : RegularExpression Char :=
  Text.literal "Boot".toList * Text.anyOf Text.hexDigits ^ 4

/-- What stands in a name where an entry has its digits. -/
def nameDigits (name : String) : List Char := name.toList.drop 4

@[simp] theorem nameDigits_entryName (digits : List Char) :
    nameDigits (entryName digits) = digits := by
  rw [nameDigits, toList_entryName]
  rfl

/-- The digits of a name that is a text of the pattern as a whole. -/
def entryDigits? (name : String) : Option (List Char) :=
  if entryPattern.rmatch name.toList then some (nameDigits name) else none

theorem toList_mem_entryPattern_iff {name : String} :
    name.toList ∈ entryPattern.matches' ↔ ∃ digits, digits.length = 4 ∧
      (∀ c ∈ digits, ∃ d, Text.IsHexDigit c d) ∧ name = entryName digits := by
  rw [entryPattern, RegularExpression.matches'_mul, Language.mem_mul]
  constructor
  · rintro ⟨front, hfront, digits, hdigits, hname⟩
    obtain rfl := Text.mem_literal_iff.mp hfront
    obtain ⟨hsize, hclass⟩ := Text.mem_anyOf_pow_iff.mp hdigits
    refine ⟨digits, hsize, fun c hc => Text.mem_hexDigits_iff.mp (hclass c hc), ?_⟩
    exact String.toList_inj.mp (by rw [← hname, toList_entryName])
  · rintro ⟨digits, hsize, hdigits, rfl⟩
    have hclass (c : Char) (hc : c ∈ digits) := Text.mem_hexDigits_iff.mpr (hdigits c hc)
    exact ⟨_, Text.mem_literal_iff.mpr rfl, digits,
      Text.mem_anyOf_pow_iff.mpr ⟨hsize, hclass⟩, (toList_entryName digits).symm⟩

theorem entryDigits?_eq_some_iff {name : String} {digits : List Char} :
    entryDigits? name = some digits ↔ digits.length = 4 ∧
      (∀ c ∈ digits, ∃ d, Text.IsHexDigit c d) ∧ name = entryName digits := by
  rw [entryDigits?, Option.ite_none_right_eq_some, RegularExpression.rmatch_iff_matches',
    toList_mem_entryPattern_iff]
  constructor
  · rintro ⟨⟨found, hsize, hfound, rfl⟩, hdigits⟩
    obtain rfl : found = digits := by simpa using hdigits
    exact ⟨hsize, hfound, rfl⟩
  · rintro ⟨hsize, hdigits, rfl⟩
    exact ⟨⟨digits, hsize, hdigits, rfl⟩, by rw [nameDigits_entryName]⟩

/-! ### The index -/

theorem bootIndex?_eq_some_iff_writes {name : String} {i : UInt16} :
    bootIndex? name = some i ↔ ∃ digits, digits.length = 4 ∧ Text.Writes digits i.toNat ∧
      name = entryName digits := by
  rw [bootIndex?_eq_some_iff]
  apply exists_congr
  intro digits
  apply and_congr_right
  intro hsize
  -- Without digits nothing would be read, but there are four.
  have hne : digits ≠ [] := List.ne_nil_of_length_eq_add_one hsize
  rw [Text.natural?_eq_some_iff, and_iff_right hne]

theorem bootIndex?_of_entryDigits?_eq_none {name : String} (h : entryDigits? name = none) :
    bootIndex? name = none := by
  rw [Option.eq_none_iff_forall_ne_some] at h ⊢
  intro i hindex
  obtain ⟨digits, hsize, hwrites, hname⟩ := bootIndex?_eq_some_iff_writes.mp hindex
  exact h digits
    (entryDigits?_eq_some_iff.mpr ⟨hsize, Text.exists_writes_iff.mp ⟨_, hwrites⟩, hname⟩)

/-- Reading the digits of a name as a word is not refused, and is all that is left to do. -/
theorem exists_bootIndex?_of_entryDigits? {name : String} {digits : List Char}
    (h : entryDigits? name = some digits) :
    ∃ i, Text.hexWord? digits = some i ∧ bootIndex? name = some i := by
  obtain ⟨hsize, hdigits, rfl⟩ := entryDigits?_eq_some_iff.mp h
  obtain ⟨n, hwrites⟩ := Text.exists_writes_iff.mpr hdigits
  have hread : Text.natural? 16 digits = some n :=
    Text.natural?_eq_some_iff.mpr ⟨List.ne_nil_of_length_eq_add_one hsize, hwrites⟩
  refine ⟨UInt16.ofNat n, Text.hexWord?_of_natural? hread hsize.le, ?_⟩
  rw [bootIndex?_entryName hsize, hread, Option.map_some]

/-- Of the names that spell an index, the one with digits of one case is the one that is looked
for. -/
theorem forall_mem_digitRow_iff {letters : Text.LetterCase} {name : String} {i : UInt16}
    (h : bootIndex? name = some i) :
    (∀ c ∈ nameDigits name, c ∈ Text.digitRow letters) ↔ name = bootName letters i := by
  constructor
  · intro row
    obtain ⟨digits, hsize, hwrites, rfl⟩ := bootIndex?_eq_some_iff_writes.mp h
    rw [nameDigits_entryName] at row
    have hdigits := hwrites.eq_hexPadded row
    rw [bootName_eq, ← hsize, ← hdigits]
  · rintro rfl
    rw [bootName_eq, nameDigits_entryName]
    exact fun _ hc => Text.mem_digitRow_of_mem_hexPadded hc

/-! ### What is read under which names -/

/-- The two stores answer alike for all variables with these names. -/
def ReadAlike (s t : VariableStore) (these : String → Prop) : Prop :=
  ∀ name, these name → s.read .globalVariable name = t.read .globalVariable name

section Reads
variable {s t : VariableStore}

theorem readBootEntry_of_readAlike {i : UInt16} (h : ReadAlike s t (bootIndex? · = some i)) :
    readBootEntry s i = readBootEntry t i := by
  apply readBootEntry_congr
  intro letters
  exact h _ (bootIndex?_bootName letters i)

theorem readOrder_of_readAlike (h : ReadAlike s t (bootIndex? · = none)) :
    BootOrder.read s = BootOrder.read t := by
  unfold BootOrder.read
  rw [h _ (by decide)]

theorem secureBoot_of_readAlike (h : ReadAlike s t (bootIndex? · = none)) :
    s.secureBoot = t.secureBoot := by
  unfold VariableStore.secureBoot
  rw [h "SecureBoot" (by decide), h "SetupMode" (by decide)]

end Reads

/-- Names of entries are `Boot` and four digits of either case, and reading the digits never fails. An
entry is read under names that spell its index, and of these only the ones with digits of one case are
looked for. The boot order and the state of Secure Boot are read under names that spell no index. -/
theorem entryNames_spec :
    (∀ name i, bootIndex? name = some i ↔ ∃ digits, digits.length = 4 ∧
      Text.Writes digits i.toNat ∧ name = entryName digits) ∧
    (∀ name, entryDigits? name = none → bootIndex? name = none) ∧
    (∀ name digits, entryDigits? name = some digits →
      ∃ i, Text.hexWord? digits = some i ∧ bootIndex? name = some i) ∧
    (∀ letters i, bootIndex? (bootName letters i) = some i ∧ ∀ name, bootIndex? name = some i →
      ((∀ c ∈ nameDigits name, c ∈ Text.digitRow letters) ↔ name = bootName letters i)) ∧
    (∀ s t i, ReadAlike s t (bootIndex? · = some i) → readBootEntry s i = readBootEntry t i) ∧
    (∀ name ∈ [BootOrder.variableName, secureBootVariable.name, setupModeVariable.name],
      bootIndex? name = none) ∧
    ∀ s t, ReadAlike s t (bootIndex? · = none) →
      BootOrder.read s = BootOrder.read t ∧ s.secureBoot = t.secureBoot := by
  refine ⟨?_, ?_, ?_, ?_, ?_, by decide, ?_⟩
  · intro name i
    exact bootIndex?_eq_some_iff_writes
  · intro name
    exact bootIndex?_of_entryDigits?_eq_none
  · intro name digits
    exact exists_bootIndex?_of_entryDigits?
  · intro letters i
    exact ⟨bootIndex?_bootName letters i, fun name => forall_mem_digitRow_iff⟩
  · intro s t i
    exact readBootEntry_of_readAlike
  · intro s t h
    exact ⟨readOrder_of_readAlike h, secureBoot_of_readAlike h⟩

/-- A sign is taken by the reader of words, but is no digit of a name. -/
example : Text.hexWord? "+12F".toList = some 0x12F ∧ bootIndex? "Boot+12F" = none ∧
    bootIndex? "Boot012F\n" = none := by decide +kernel

end NextBoot.Firmware
