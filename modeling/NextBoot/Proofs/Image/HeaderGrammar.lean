import NextBoot.Proofs.Image.HeaderFields

/-! The grammar of the headers as a list of conditions. A section table is read where all of them hold,
and else the first that does not hold says what is wrong. -/
namespace NextBoot.Image

/-- What the first two bytes of the optional header say about its kind. -/
def magicNumber (file : Bytes) : Nat := word16At file (signatureOffset file + peHeaderSize)

/-- The header whose bytes begin at this place. -/
def headerAt (file : Bytes) (place : Nat) : SectionHeader where
  label := .ofFn fun i : Fin 8 => byteAt file (place + i)
  virtualSize := .ofNat (word32At file (place + 8))
  rawSize := .ofNat (word32At file (place + 16))
  rawOffset := .ofNat (word32At file (place + 20))

/-- The headers of all sections, from where the table begins. -/
def storedHeaders (file : Bytes) : List SectionHeader :=
  (List.range (sectionCount file)).map fun i =>
    headerAt file (tableOffset file + SectionHeader.size * i)

/-- The conditions in the order in which they are looked at, each with the error of a file that does
not meet it. -/
def conditions (file : Bytes) : List (Bool × FormatError) :=
  [(dosHeaderSize ≤ file.length, .truncated .dosHeader),
    (HasDosSignature file, .noDosSignature),
    (signatureOffset file + peHeaderSize ≤ file.length, .truncated .peHeader),
    (HasPeSignature file, .noPeSignature (signatureOffset file)),
    (sectionCount file ≤ sectionLimit, .tooManySections (sectionCount file)),
    (optionalSize file < 2 ∨ signatureOffset file + peHeaderSize + 2 ≤ file.length,
      .truncated .optionalHeader),
    (optionalSize file < 2 ∨ magicNumber file = 0x10b ∨ magicNumber file = 0x20b,
      .unknownMagic (magicNumber file)),
    (sectionCount file = 0 ∨ tableEnd file ≤ file.length, .truncated .sectionTable)]

/-- What is answered where conditions are looked at one after the other. -/
def judge (headers : List SectionHeader) :
    List (Bool × FormatError) → Except FormatError (List SectionHeader)
  | [] => .ok headers
  | (holds, e) :: rest => if holds then judge headers rest else .error e

theorem judge_eq_ok_iff {headers found : List SectionHeader} {cs : List (Bool × FormatError)} :
    judge headers cs = .ok found ↔ headers = found ∧ ∀ c ∈ cs, c.1 = true := by
  induction cs with
  | nil => simp [judge]
  | cons c cs ih =>
    obtain ⟨holds, e⟩ := c
    cases holds with
    | false => simp [judge]
    | true => simp [judge, ih]

/-- The error is that of the first condition that does not hold. -/
theorem judge_eq_error_iff {headers : List SectionHeader} {cs : List (Bool × FormatError)}
    {e : FormatError} : judge headers cs = .error e ↔
      ∃ before after, cs = before ++ (false, e) :: after ∧ ∀ c ∈ before, c.1 = true := by
  induction cs with
  | nil => simp [judge]
  | cons c cs ih =>
    obtain ⟨holds, e'⟩ := c
    rw [judge]
    constructor
    · intro h
      split at h
      next hholds =>
        obtain ⟨before, after, rfl, hbefore⟩ := ih.mp h
        exact ⟨(holds, e') :: before, after, rfl, List.forall_mem_cons.mpr ⟨hholds, hbefore⟩⟩
      next hfails =>
        obtain rfl := Except.error.inj h
        rw [Bool.not_eq_true] at hfails
        exact ⟨[], cs, by rw [hfails, List.nil_append], nofun⟩
    · rintro ⟨before, after, hcs, hbefore⟩
      cases before with
      | nil =>
        obtain ⟨hc, rfl⟩ := List.cons.inj hcs
        obtain ⟨rfl, rfl⟩ := Prod.mk.inj hc
        rfl
      | cons b before =>
        obtain ⟨rfl, rfl⟩ := List.cons.inj hcs
        obtain ⟨hholds, hbefore⟩ := List.forall_mem_cons.mp hbefore
        rw [if_pos hholds]
        exact ih.mpr ⟨before, after, rfl, hbefore⟩

/-! ### Reads that must be complete -/

theorem readAt?_eq_none_iff {file : Bytes} {offset size : Nat} (positive : 0 < size) :
    file.readAt? offset size = none ↔ file.length < offset + size := by
  simp only [Bytes.readAt?, dite_eq_right_iff, reduceCtorEq, imp_false, List.length_take,
    List.length_drop]
  omega

theorem exists_readAt?_iff {file : Bytes} {offset size : Nat} (positive : 0 < size) :
    (∃ v, file.readAt? offset size = some v) ↔ offset + size ≤ file.length := by
  rw [← Option.ne_none_iff_exists', ne_eq, readAt?_eq_none_iff positive, Nat.not_lt]

theorem ofBytes_of_readAt? {file : Bytes} {place : Nat} {v : Vector UInt8 SectionHeader.size}
    (h : file.readAt? place SectionHeader.size = some v) :
    SectionHeader.ofBytes v = headerAt file place := by
  have hbyte (i : Nat) (hi : i < SectionHeader.size) : v[i] = byteAt file (place + i) :=
    (byteAt_of_readAt? h i hi).symm
  simp only [SectionHeader.ofBytes, headerAt, hbyte, word32At, UInt32.ofNat_toNat,
    SectionHeader.mk.injEq, and_self, and_true]
  rfl

/-- By induction on the number of headers, wherever they begin. -/
theorem readHeaders?_eq (file : Bytes) (offset count : Nat) :
    readHeaders? file offset count =
      if count = 0 ∨ offset + SectionHeader.size * count ≤ file.length then
        some ((List.range count).map fun i => headerAt file (offset + SectionHeader.size * i))
      else none := by
  induction count generalizing offset with
  | zero => rfl
  | succ count ih =>
    cases hfirst : file.readAt? offset SectionHeader.size with
    | none =>
      have hshort := (readAt?_eq_none_iff (by decide)).mp hfirst
      rw [readHeaders?, hfirst, if_neg]
      · rfl
      · rw [Nat.mul_succ]
        omega
    | some v =>
      have hfits := (exists_readAt?_iff (by decide)).mp ⟨v, hfirst⟩
      have hplace (i : Nat) : offset + SectionHeader.size + SectionHeader.size * i =
          offset + SectionHeader.size * (i + 1) := by
        rw [Nat.mul_succ]
        omega
      have hrest : (count = 0 ∨ offset + SectionHeader.size * (count + 1) ≤ file.length) ↔
          count + 1 = 0 ∨ offset + SectionHeader.size * (count + 1) ≤ file.length := by
        simp only [SectionHeader.size] at hfits ⊢
        omega
      simp only [readHeaders?, hfirst, ih, hplace, hrest, Option.bind_eq_bind, Option.bind_some]
      split
      · rw [Option.bind_some, List.range_succ_eq_map, List.map_cons, List.map_map,
          ofBytes_of_readAt? hfirst]
        rfl
      · rfl

theorem checkOptionalHeader_eq (file : Bytes) :
    checkOptionalHeader file (signatureOffset file + peHeaderSize) (optionalSize file) =
      if ¬(optionalSize file < 2 ∨ signatureOffset file + peHeaderSize + 2 ≤ file.length) then
        .error (.truncated .optionalHeader)
      else if ¬(optionalSize file < 2 ∨ magicNumber file = 0x10b ∨ magicNumber file = 0x20b) then
        .error (.unknownMagic (magicNumber file))
      else .ok () := by
  unfold checkOptionalHeader
  by_cases hsmall : optionalSize file < 2
  · simp [hsmall]
  cases hmagic : file.readAt? (signatureOffset file + peHeaderSize) 2 with
  | none =>
    have hshort := (readAt?_eq_none_iff (by decide)).mp hmagic
    simp [hsmall, hshort]
  | some b =>
    have hfits := (exists_readAt?_iff (by decide)).mp ⟨b, hmagic⟩
    have hword : (Bytes.word16 b[0] b[1]).toNat = magicNumber file := by
      rw [← byteAt_of_readAt? hmagic 0 (by decide), ← byteAt_of_readAt? hmagic 1 (by decide)]
      rfl
    simp only [hword, hsmall, hfits, false_or, not_true_eq_false, if_false, ite_not]

/-! ### The verdict -/

theorem sectionHeaders_eq_judge (file : Bytes) :
    sectionHeaders file = judge (storedHeaders file) (conditions file) := by
  have hdos : file.readAt? 0 dosHeaderSize = none ↔ ¬dosHeaderSize ≤ file.length := by
    rw [readAt?_eq_none_iff (by decide)]
    omega
  have hpe : file.readAt? (signatureOffset file) peHeaderSize = none ↔
      ¬signatureOffset file + peHeaderSize ≤ file.length := by
    rw [readAt?_eq_none_iff (by decide)]
    omega
  have htable : tableOffset file + SectionHeader.size * sectionCount file = tableEnd file := rfl
  rw [sectionHeaders_eq, checkOptionalHeader_eq, readHeaders?_eq, htable]
  simp only [hdos, hpe, ite_not, judge, conditions, decide_eq_true_eq, ← Nat.not_le]
  split_ifs <;> rfl

end NextBoot.Image
