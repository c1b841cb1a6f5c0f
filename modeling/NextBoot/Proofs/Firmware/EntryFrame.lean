import Mathlib.Data.List.Sort
import Mathlib.Data.String.Basic
import NextBoot.Proofs.Firmware.ListedEntries
import NextBoot.Proofs.Firmware.StoredOrder

/-! The boot entries are found without the file of the boot order. Stores that differ in no other
file have the same entries, and warn of the same broken ones. -/
namespace NextBoot.Firmware

theorem VariableStore.list_ascending {s : VariableStore} {scope : Guid} {names : List String}
    (list : s.list scope = .ok names) : names.Pairwise (· < ·) := by
  have trans (a b c : String) (h : decide (a < b) = true) (h' : decide (b < c) = true) :
      decide (a < c) = true :=
    decide_eq_true (lt_trans (of_decide_eq_true h) (of_decide_eq_true h'))
  rw [eq_of_list_eq_ok list]
  exact (Ascending.pairwise_ofList text_connected trans _).imp of_decide_eq_true

theorem bootIndex?_orderName : bootIndex? BootOrder.variableName = none := by decide

theorem variableFile_bootName_ne (letters : Text.LetterCase) (i : UInt16) :
    variableFile .globalVariable (bootName letters i) ≠ BootOrder.file := by
  intro h
  have hindex := bootIndex?_bootName letters i
  rw [(variableFile_inj h).2, bootIndex?_orderName] at hindex
  cases hindex

/-- What `f` says nothing of may be left out beforehand. -/
theorem filterMap_filter_of_forall_none {α β : Type} {f : α → Option β} {p : α → Bool}
    (h : ∀ a, p a = false → f a = none) (l : List α) : (l.filter p).filterMap f = l.filterMap f := by
  rw [List.filterMap_filter]
  apply List.filterMap_congr
  intro a _
  cases hp : p a with
  | true => rw [if_pos rfl]
  | false => rw [if_neg Bool.false_ne_true, h a hp]

/-- All files but that of the order are the same. -/
structure SameButOrder (s t : VariableStore) : Prop where
  unlistable : t.directory.unlistable = s.directory.unlistable
  files : ∀ name ≠ BootOrder.file, t.directory.get? name = s.directory.get? name

namespace SameButOrder

theorem refl (s : VariableStore) : SameButOrder s s := ⟨rfl, fun _ _ => rfl⟩

section Two
variable {s t : VariableStore}

theorem symm (same : SameButOrder s t) : SameButOrder t s :=
  ⟨same.unlistable.symm, fun name hne => (same.files name hne).symm⟩

theorem trans {u : VariableStore} (st : SameButOrder s t) (tu : SameButOrder t u) :
    SameButOrder s u :=
  ⟨tu.unlistable.trans st.unlistable,
    fun name hne => (tu.files name hne).trans (st.files name hne)⟩

theorem readBootEntry (same : SameButOrder s t) (i : UInt16) :
    readBootEntry t i = readBootEntry s i := by
  apply readBootEntry_congr
  intro letters
  rw [read_bootName, read_bootName, entryNode?, entryNode?,
    same.files _ (variableFile_bootName_ne letters i)]

theorem mem_of_mem (same : SameButOrder s t) {names names' : List String}
    (hs : s.list .globalVariable = .ok names) (ht : t.list .globalVariable = .ok names')
    {name : String} (hne : name ≠ BootOrder.variableName) (h : name ∈ names) : name ∈ names' := by
  obtain ⟨file, content, hfile, hname⟩ := (VariableStore.mem_list_iff hs).mp h
  have hother : file ≠ BootOrder.file := by
    rintro rfl
    rw [BootOrder.file, variableName?_variableFile] at hname
    exact hne (Option.some.inj hname).symm
  apply (VariableStore.mem_list_iff ht).mpr
  exact ⟨file, content, (same.files file hother).trans hfile, hname⟩

/-- The lists have the same names but for that of the order, and both are ascending. -/
theorem filter_list (same : SameButOrder s t) {names names' : List String}
    (hs : s.list .globalVariable = .ok names) (ht : t.list .globalVariable = .ok names') :
    names'.filter (· ≠ BootOrder.variableName) = names.filter (· ≠ BootOrder.variableName) := by
  apply List.Pairwise.eq_of_mem_iff ((VariableStore.list_ascending ht).filter _)
    ((VariableStore.list_ascending hs).filter _)
  intro name
  rw [List.mem_filter, List.mem_filter]
  apply and_congr_left
  intro hne
  have hne' : name ≠ BootOrder.variableName := of_decide_eq_true hne
  exact ⟨same.symm.mem_of_mem ht hs hne', same.mem_of_mem hs ht hne'⟩

theorem filterMap_list {β : Type} (same : SameButOrder s t) {names names' : List String}
    (hs : s.list .globalVariable = .ok names) (ht : t.list .globalVariable = .ok names')
    {f : String → Option β} (hf : f BootOrder.variableName = none) :
    names'.filterMap f = names.filterMap f := by
  have hnone (name : String) (h : decide (name ≠ BootOrder.variableName) = false) :
      f name = none := by
    obtain rfl : name = BootOrder.variableName := not_not.mp (of_decide_eq_false h)
    exact hf
  rw [← filterMap_filter_of_forall_none hnone names', same.filter_list hs ht,
    filterMap_filter_of_forall_none hnone names]

theorem decodedEntries (same : SameButOrder s t) {names names' : List String}
    (hs : s.list .globalVariable = .ok names) (ht : t.list .globalVariable = .ok names') :
    decodedEntries t names' = decodedEntries s names := by
  unfold Firmware.decodedEntries listedIndices
  rw [same.filterMap_list hs ht bootIndex?_orderName, funext same.readBootEntry]

theorem entryWarnings (same : SameButOrder s t) {names names' : List String}
    (hs : s.list .globalVariable = .ok names) (ht : t.list .globalVariable = .ok names') :
    entryWarnings t names' = entryWarnings s names := by
  unfold Firmware.entryWarnings
  rw [funext same.readBootEntry]
  apply same.filterMap_list hs ht
  rw [bootIndex?_orderName]
  rfl

/-- The order takes no part in finding the entries. -/
theorem bootEntries (same : SameButOrder s t) : bootEntries t = bootEntries s := by
  unfold Firmware.bootEntries
  cases h : s.directory.unlistable with
  | some errno =>
    rw [VariableStore.list_of_unlistable h,
      VariableStore.list_of_unlistable (same.unlistable.trans h)]
  | none =>
    have hs : s.list .globalVariable = .ok _ := VariableStore.list_of_listable h
    have ht : t.list .globalVariable = .ok _ :=
      VariableStore.list_of_listable (same.unlistable.trans h)
    simp only [hs, ht, same.decodedEntries hs ht, same.entryWarnings hs ht]

theorem described (same : SameButOrder s t) (description : String) :
    described t description = described s description := by
  unfold Firmware.described
  rw [same.bootEntries]

end Two

end SameButOrder

end NextBoot.Firmware
