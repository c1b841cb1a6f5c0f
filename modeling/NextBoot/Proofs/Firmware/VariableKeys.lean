import NextBoot.Proofs.Firmware.VariableFiles
import NextBoot.Proofs.Text.EncodedZeros
import NextBoot.Proofs.Text.HexDigits

/-! Which files hold which variables, and what reading them answers. No two variables share a file,
whatever dashes and digits are in their names. -/
namespace NextBoot.Firmware

theorem Guid.chars_injective : Function.Injective Guid.chars := by
  rintro ⟨v⟩ ⟨w⟩ h
  simp only [Guid.chars, List.append_assoc, List.cons_append] at h
  -- The groups have the same lengths on both sides, so they agree one by one.
  obtain ⟨h8, h⟩ := List.append_inj h (by simp)
  obtain ⟨h4, h⟩ := List.append_inj (List.cons.inj h).2 (by simp)
  obtain ⟨h4', h⟩ := List.append_inj (List.cons.inj h).2 (by simp)
  obtain ⟨h4'', h⟩ := List.append_inj (List.cons.inj h).2 (by simp)
  have h12 := (List.cons.inj h).2
  replace h8 := Text.hexPadded_inj h8
  replace h4 := Text.hexPadded_inj h4
  replace h4' := Text.hexPadded_inj h4'
  replace h4'' := Text.hexPadded_inj h4''
  replace h12 := Text.hexPadded_inj h12
  have hv := v.isLt
  have hw := w.isLt
  have heq : v.toNat = w.toNat := by
    simp only [Nat.shiftRight_eq_div_pow] at h8 h4 h4' h4'' h12
    omega
  rw [BitVec.eq_of_toNat_eq heq]

theorem variableFile_inj {scope scope' : Guid} {name name' : String}
    (h : variableFile scope name = variableFile scope' name') : scope = scope' ∧ name = name' := by
  have htext := congrArg String.toList (Text.Utf8.encode_injective h)
  simp only [String.toList_append, String.toList_ofList] at htext
  obtain ⟨hname, howner⟩ := List.append_inj' htext (by simp [ownerSuffix])
  exact ⟨Guid.chars_injective (List.cons.inj howner).2, String.toList_inj.mp hname⟩

theorem dash_or_digit_of_mem_ownerSuffix {scope : Guid} {c : Char} (h : c ∈ ownerSuffix scope) :
    c = '-' ∨ (Text.hexValue? c).isSome := by
  have hd {width n : Nat} : c ∈ Text.hexPadded .lower width n → (Text.hexValue? c).isSome :=
    Text.isSome_hexValue?_of_mem_hexPadded
  simp only [ownerSuffix, Guid.chars, List.mem_cons, List.mem_append] at h
  rcases h with h | (((h | h | h) | h | h) | h | h) | h | h
  all_goals first | exact .inl h | exact .inr (hd h)

/-- A variable whose file can be there: its name is no path, and not too long. -/
structure Variable where
  scope : Guid
  name : String
  component : '/' ∉ name.toList
  text : Text.nul ∉ name.toList
  fits : (variableFile scope name).length ≤ FileName.limit
  deriving DecidableEq

namespace Variable

def file (v : Variable) : Bytes := variableFile v.scope v.name

theorem file_injective : Function.Injective file := by
  rintro ⟨scope, name, _, _, _⟩ ⟨scope', name', _, _, _⟩ h
  obtain ⟨rfl, rfl⟩ := variableFile_inj h
  rfl

theorem ascii_mem_file_iff (v : Variable) {a : Char} (h : a.toNat < 0x80) :
    UInt8.ofNat a.toNat ∈ v.file ↔ a ∈ v.name.toList ∨ a ∈ ownerSuffix v.scope := by
  rw [file, variableFile, Text.Utf8.ascii_mem_encode_iff h, String.toList_append,
    String.toList_ofList, List.mem_append]

theorem notMem_file {v : Variable} {a : Char} (h : a.toNat < 0x80) (hname : a ∉ v.name.toList)
    (howner : ¬(a = '-' ∨ (Text.hexValue? a).isSome)) : UInt8.ofNat a.toNat ∉ v.file := by
  rw [ascii_mem_file_iff v h]
  rintro (hmem | hmem)
  · exact hname hmem
  · exact howner (dash_or_digit_of_mem_ownerSuffix hmem)

theorem slash_notMem_file (v : Variable) : FileName.slash ∉ v.file :=
  notMem_file (a := '/') (by decide) v.component (by decide)

theorem zero_notMem_file (v : Variable) : 0 ∉ v.file :=
  notMem_file (a := Text.nul) (by decide) v.text (by decide)

theorem isDirectoryName_file (v : Variable) : FileName.isDirectoryName v.file = false := by
  have hdash : 0x2D ∈ v.file :=
    (v.ascii_mem_file_iff (a := '-') (by decide)).mpr (.inr List.mem_cons_self)
  rw [Bool.eq_false_iff]
  intro h
  simp only [FileName.isDirectoryName, Bool.or_eq_true, beq_iff_eq] at h
  rcases h with (h | h) | h
  all_goals
    rw [h] at hdash
    exact absurd hdash (by decide)

@[simp] theorem check_file (v : Variable) : FileName.check v.file = .ok () := by
  have hwhole : v.file.takeWhile (· != FileName.slash) = v.file := by
    rw [List.takeWhile_eq_self_iff]
    intro b hb
    simpa using ne_of_mem_of_not_mem hb v.slash_notMem_file
  have hfits : v.file.length ≤ FileName.limit := v.fits
  rw [FileName.check, if_neg v.zero_notMem_file,
    if_neg (Nat.not_lt.mpr (hfits.trans (by decide))), FileName.checkParts,
    isDirectoryName_file, hwhole]
  simp only [Bool.false_eq_true, if_false, Nat.not_lt.mpr hfits, lt_irrefl]

@[simp] theorem checkRemoval_file (v : Variable) : FileName.checkRemoval v.file = .ok () := by
  rw [FileName.checkRemoval, if_neg v.slash_notMem_file, check_file]

/-- What reading a variable answers, for what is under the name of its file. -/
def readNode (v : Variable) : Option Node → Except StoreError (Bytes × Attributes)
  | none => .error (.notFound v.name)
  | some .directory => .error (.io .reading v.name (.os .isDirectory))
  | some (.file (b₀ :: b₁ :: b₂ :: b₃ :: value)) => .ok (value, ⟨Bytes.word32 b₀ b₁ b₂ b₃⟩)
  | some (.file short) => .error (.malformed v.name short.length)

theorem read_eq_readNode (v : Variable) (s : VariableStore) :
    s.read v.scope v.name = v.readNode (s.directory.get? v.file) := by
  rw [VariableStore.read]
  cases hn : s.directory.get? v.file with
  | none => exact VariableStore.readFrom_of_absent v.check_file hn
  | some node =>
    cases node with
    | directory => exact VariableStore.readFrom_of_directory v.check_file hn
    | file content =>
      rcases Nat.lt_or_ge content.length Attributes.size with hs | hs
      · rw [VariableStore.readFrom_of_short v.check_file hn hs]
        match content, hs with
        | [], _ | [_], _ | [_, _], _ | [_, _, _], _ => rfl
      · obtain ⟨b₀, b₁, b₂, b₃, value, rfl⟩ := VariableStore.exists_header_of_size_le hs
        exact VariableStore.readFrom_of_file v.check_file hn

end Variable

end NextBoot.Firmware
