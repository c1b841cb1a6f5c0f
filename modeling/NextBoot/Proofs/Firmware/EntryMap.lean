import Mathlib.Data.Finset.Basic
import NextBoot.Firmware.Promotion

/-! The boot entries of a store as a map from indices, and the indices with a description. -/
namespace NextBoot.Firmware

theorem index_connected (a b : UInt16) (h : decide (a < b) = false) (h' : decide (b < a) = false) :
    a = b := by
  have hab := UInt16.not_lt.mp (of_decide_eq_false h)
  have hba := UInt16.not_lt.mp (of_decide_eq_false h')
  exact UInt16.le_antisymm hba hab

theorem index_trans (a b c : UInt16) (h : decide (a < b) = true) (h' : decide (b < c) = true) :
    decide (a < c) = true :=
  decide_eq_true (UInt16.lt_trans (of_decide_eq_true h) (of_decide_eq_true h'))

theorem listedIndices_ascending (names : List String) : (listedIndices names).Pairwise (· < ·) :=
  (Ascending.pairwise_ofList index_connected index_trans _).imp of_decide_eq_true

theorem mem_listedIndices_iff {i : UInt16} {names : List String} :
    i ∈ listedIndices names ↔ ∃ name ∈ names, bootIndex? name = some i := by
  rw [listedIndices, Ascending.mem_ofList index_connected, List.mem_filterMap]

theorem mem_decodedEntries_iff {s : VariableStore} {names : List String} {i : UInt16}
    {o : LoadOption} :
    (i, o) ∈ decodedEntries s names ↔ i ∈ listedIndices names ∧ readBootEntry s i = .ok o := by
  rw [decodedEntries, List.mem_filterMap]
  constructor
  · rintro ⟨j, hj, he⟩
    cases hr : readBootEntry s j with
    | error e => simp [hr, Except.toOption] at he
    | ok found =>
      obtain ⟨rfl, rfl⟩ : j = i ∧ found = o := by simpa [hr, Except.toOption] using he
      exact ⟨hj, hr⟩
  · rintro ⟨hi, hr⟩
    exact ⟨i, hi, by simp [hr, Except.toOption]⟩

theorem keys_decodedEntries_sublist (s : VariableStore) (names : List String) :
    ((decodedEntries s names).map Prod.fst).Sublist (listedIndices names) := by
  rw [decodedEntries]
  induction listedIndices names with
  | nil => simp
  | cons i rest ih =>
    cases hr : readBootEntry s i with
    | error e =>
      rw [List.filterMap_cons_none (by simp [hr, Except.toOption])]
      exact ih.cons i
    | ok o =>
      rw [List.filterMap_cons_some (b := (i, o)) (by simp [hr, Except.toOption]), List.map_cons]
      exact ih.cons_cons i

theorem bootEntries_ascending {s : VariableStore} {entries : List (UInt16 × LoadOption)}
    (h : (bootEntries s).value = .ok entries) : (entries.map Prod.fst).Pairwise (· < ·) := by
  unfold bootEntries at h
  split at h
  · cases h
  next names _ =>
    obtain rfl : decodedEntries s names = entries := Except.ok.inj h
    exact (listedIndices_ascending names).sublist (keys_decodedEntries_sublist s names)

theorem VariableStore.list_of_unlistable {s : VariableStore} {scope : Guid} {errno : Errno}
    (h : s.directory.unlistable = some errno) :
    s.list scope = .error (.ofErrno .listing "." errno) := by
  simp only [VariableStore.list, Directory.list, h]
  rfl

theorem VariableStore.list_of_listable {s : VariableStore} {scope : Guid}
    (h : s.directory.unlistable = none) :
    s.list scope = .ok (Ascending.ofList (fun a b => decide (a < b))
      (s.directory.entries.filterMap (ownedVariable? scope))) := by
  simp only [VariableStore.list, Directory.list, h]
  rfl

theorem bootEntries_of_unlistable {s : VariableStore} {errno : Errno}
    (h : s.directory.unlistable = some errno) :
    (bootEntries s).value = .error (.store (.ofErrno .listing "." errno)) := by
  simp only [bootEntries, VariableStore.list_of_unlistable h, Logged.value_pure]

theorem exists_bootEntries {s : VariableStore} (h : s.directory.unlistable = none) :
    ∃ entries, (bootEntries s).value = .ok entries := by
  simp only [bootEntries, VariableStore.list_of_listable h]
  exact ⟨_, rfl⟩

/-! ### The entries with a description -/

/-- The indices of the entries there are with a description. -/
def described (s : VariableStore) (description : String) : Finset UInt16 :=
  match (bootEntries s).value with
  | .ok entries => ((entries.filter fun e => e.2.description = description).map Prod.fst).toFinset
  | .error _ => ∅

section Described
variable {s : VariableStore} {description : String} {entries : List (UInt16 × LoadOption)}

/-- A variable that is listed spells the index, and what is read of it has the description. -/
theorem mem_described_iff {i : UInt16} :
    i ∈ described s description ↔ ∃ names, s.list .globalVariable = .ok names ∧
      (∃ name ∈ names, bootIndex? name = some i) ∧
      ∃ o, readBootEntry s i = .ok o ∧ o.description = description := by
  unfold described bootEntries
  cases s.list .globalVariable with
  | error e => simp
  | ok names =>
    simp only [List.mem_toFinset, List.mem_map, List.mem_filter, Prod.exists,
      mem_decodedEntries_iff, mem_listedIndices_iff, decide_eq_true_eq]
    constructor
    · rintro ⟨j, o, ⟨⟨hlisted, hread⟩, hd⟩, rfl⟩
      exact ⟨names, rfl, hlisted, o, hread, hd⟩
    · rintro ⟨found, hnames, hlisted, o, hread, hd⟩
      obtain rfl : names = found := Except.ok.inj hnames
      exact ⟨i, o, ⟨⟨hlisted, hread⟩, hd⟩, rfl⟩

theorem mem_matching_iff (h : (bootEntries s).value = .ok entries) {i : UInt16} :
    i ∈ matching entries description ↔ i ∈ described s description := by
  simp only [described, h, matching, List.mem_toFinset]

theorem matching_ascending (h : (bootEntries s).value = .ok entries) :
    (matching entries description).Pairwise (· < ·) :=
  (bootEntries_ascending h).sublist (List.filter_sublist.map Prod.fst)

theorem matching_eq_nil_iff (h : (bootEntries s).value = .ok entries) :
    matching entries description = [] ↔ described s description = ∅ := by
  rw [List.eq_nil_iff_forall_not_mem, Finset.eq_empty_iff_forall_notMem]
  simp only [mem_matching_iff h]

/-- The first match is the least. -/
theorem isLeast_of_matching_eq (h : (bootEntries s).value = .ok entries) {first : UInt16}
    {others : List UInt16} (hm : matching entries description = first :: others) :
    first ∈ described s description ∧ ∀ i ∈ described s description, first ≤ i := by
  have hasc : (matching entries description).Pairwise (· < ·) := matching_ascending h
  rw [hm] at hasc
  constructor
  · rw [← mem_matching_iff h, hm]
    exact List.mem_cons_self
  · intro i hi
    rw [← mem_matching_iff h, hm] at hi
    rcases List.mem_cons.mp hi with rfl | hi
    · exact UInt16.le_refl _
    · exact UInt16.le_of_lt (List.rel_of_pairwise_cons hasc hi)

end Described

end NextBoot.Firmware
