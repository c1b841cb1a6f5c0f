import NextBoot.Proofs.Firmware.EntryFrame
import NextBoot.Proofs.Firmware.FailedChanges
import NextBoot.Proofs.Text.EncodedOrder
import NextBoot.Proofs.Text.EncodedParts

/-! The variables that a store lists. They are those whose files are there, whatever else is in the
directory, and a change of one variable moves no other into a list or out of it. -/
namespace NextBoot

theorem FileName.check_ne_noEntry {name : Bytes} (h : slash ∉ name) :
    check name ≠ .error .noEntry := by
  have hwhole : name.takeWhile (· != slash) = name := by
    rw [List.takeWhile_eq_self_iff]
    intro b hb
    simpa using ne_of_mem_of_not_mem hb h
  simp only [check, checkParts, hwhole, lt_irrefl, if_false]
  split_ifs
  all_goals
    simp [Errno.noEntry, Errno.invalidArgument, Errno.nameTooLong, Errno.isDirectory]

namespace Firmware

theorem variableName?_eq_some_iff {scope : Guid} {file : Bytes} {name : String} :
    variableName? scope file = some name ↔ file = variableFile scope name := by
  constructor
  · intro h
    obtain ⟨text, htext, h⟩ := Option.bind_eq_some_iff.mp h
    dsimp only at h
    generalize text.toList.length - (ownerSuffix scope).length = size at h
    split at h
    next hsuffix =>
      rw [Text.Utf8.decode?_eq_some_iff.mp htext, variableFile, ← Option.some.inj h]
      apply congrArg Text.Utf8.encode
      apply String.toList_inj.mp
      rw [String.toList_append, String.toList_ofList, String.toList_ofList]
      rw [← hsuffix, List.take_append_drop]
    next => cases h
  · rintro rfl
    exact variableName?_variableFile scope name

/-- No file is named by a path of several parts. -/
def Directory.Plain (d : Directory) : Prop :=
  ∀ file node, d.get? file = some node → FileName.slash ∉ file

namespace VariableStore

/-- These are the variables of the owner in the store. -/
structure Listing (s : VariableStore) (scope : Guid) (names : List String) : Prop where
  /-- Each once, in the order of their bytes. -/
  ascending : (names.map Text.Utf8.encode).Pairwise (· < ·)
  members : ∀ name, name ∈ names ↔
    ∃ content, s.directory.get? (variableFile scope name) = some (.file content)
  found : s.directory.Plain → ∀ name ∈ names, ∀ other, s.read scope name ≠ .error (.notFound other)

section Listed
variable {s : VariableStore} {scope : Guid} {names : List String}

theorem mem_list_iff_file (list : s.list scope = .ok names) {name : String} : name ∈ names ↔
    ∃ content, s.directory.get? (variableFile scope name) = some (.file content) := by
  rw [mem_list_iff list]
  constructor
  · rintro ⟨file, content, hfile, hname⟩
    exact ⟨content, variableName?_eq_some_iff.mp hname ▸ hfile⟩
  · rintro ⟨content, hfile⟩
    exact ⟨_, content, hfile, variableName?_variableFile scope name⟩

/-- A file that is there is found, though it may be too short, or its name too long. -/
theorem read_ne_notFound {name : String} {content : Bytes}
    (file : s.directory.get? (variableFile scope name) = some (.file content))
    (plain : FileName.slash ∉ variableFile scope name) (other : String) :
    s.read scope name ≠ .error (.notFound other) := by
  cases hcheck : FileName.check (variableFile scope name) with
  | error errno =>
    have hne : errno ≠ .noEntry := by
      rintro rfl
      exact FileName.check_ne_noEntry plain hcheck
    have hread : s.read scope name = .error (.io .reading name (.os errno)) := by
      simp [read, readFrom, Directory.readFile, Directory.openNode, hcheck, StoreError.ofErrno, hne]
    rw [hread]
    simp
  | ok _ =>
    rcases Nat.lt_or_ge content.length Attributes.size with hshort | hsize
    · have hread : s.read scope name = _ := readFrom_of_short hcheck file hshort
      rw [hread]
      simp
    · obtain ⟨b₀, b₁, b₂, b₃, value, rfl⟩ := exists_header_of_size_le hsize
      have hread : s.read scope name = _ := readFrom_of_file hcheck file
      rw [hread]
      simp

theorem listing_of_list (list : s.list scope = .ok names) : Listing s scope names where
  ascending := by
    rw [List.pairwise_map]
    exact (list_ascending list).imp Text.Utf8.encode_lt_encode
  members _ := mem_list_iff_file list
  found plain name hname other := by
    obtain ⟨content, hfile⟩ := (mem_list_iff_file list).mp hname
    exact read_ne_notFound hfile (plain _ _ hfile) other

end Listed

/-! ### Changes -/

/-- The lists of `t` are those of `s`, and `name` is in the owner's list exactly if `listed`. -/
structure Relisted (s t : VariableStore) (scope : Guid) (name : String) (listed : Prop) : Prop where
  owner : ∀ names, s.list scope = .ok names → ∃ names', t.list scope = .ok names' ∧
    (name ∈ names' ↔ listed) ∧ ∀ other, other ≠ name → (other ∈ names' ↔ other ∈ names)
  others : ∀ scope', scope' ≠ scope → t.list scope' = s.list scope'

section Changed
variable {s t : VariableStore} {scope : Guid} {name : String} {c : Change}

theorem list_congr (unlistable : t.directory.unlistable = s.directory.unlistable)
    (files : ∀ name, t.directory.get? (variableFile scope name) =
      s.directory.get? (variableFile scope name)) : t.list scope = s.list scope := by
  cases h : s.directory.unlistable with
  | some errno => rw [list_of_unlistable h, list_of_unlistable (unlistable.trans h)]
  | none =>
    have hs : s.list scope = .ok _ := list_of_listable h
    have ht : t.list scope = .ok _ := list_of_listable (unlistable.trans h)
    have hsame := (list_ascending ht).eq_of_mem_iff (list_ascending hs) fun name => by
      rw [mem_list_iff_file ht, mem_list_iff_file hs, files]
    rw [hs, ht, hsame]

theorem relisted_of_files (unlistable : t.directory.unlistable = s.directory.unlistable)
    (files : ∀ file, file ≠ variableFile scope name → t.directory.get? file = s.directory.get? file) :
    Relisted s t scope name
      (∃ content, t.directory.get? (variableFile scope name) = some (.file content)) where
  owner names hs := by
    have hlistable : s.directory.unlistable = none := by
      cases h : s.directory.unlistable with
      | none => rfl
      | some errno =>
        rw [list_of_unlistable h] at hs
        cases hs
    have ht : t.list scope = .ok _ := list_of_listable (unlistable.trans hlistable)
    refine ⟨_, ht, mem_list_iff_file ht, fun other hne => ?_⟩
    rw [mem_list_iff_file ht, mem_list_iff_file hs]
    rw [files _ fun h => hne (variableFile_inj h).2]
  others scope' hne := list_congr unlistable fun other =>
    files _ fun h => hne (variableFile_inj h).1

theorem files_of_change (h : s.change scope name c = (.ok (), t)) :
    t.directory.unlistable = s.directory.unlistable ∧
      ∀ file, t.directory.get? file =
        if file = variableFile scope name then c.node? else s.directory.get? file := by
  cases c with
  | write attributes value =>
    have hdirectory := directory_of_write (congrArg Prod.fst h)
    rw [show (s.write scope name attributes value).value = (.ok (), t) from h] at hdirectory
    rw [hdirectory]
    exact ⟨rfl, fun file => s.directory.get?_insert _ file _⟩
  | delete =>
    have hdirectory := directory_of_delete (congrArg Prod.fst h)
    rw [show (s.delete scope name).value = (.ok (), t) from h] at hdirectory
    rw [hdirectory]
    exact ⟨rfl, s.directory.get?_erase _⟩

theorem relisted_of_change (h : s.change scope name c = (.ok (), t)) :
    Relisted s t scope name (∃ content, c.node? = some (.file content)) := by
  obtain ⟨unlistable, files⟩ := files_of_change h
  have hnode := files (variableFile scope name)
  rw [if_pos rfl] at hnode
  rw [← hnode]
  exact relisted_of_files unlistable fun file hne => by rw [files, if_neg hne]

end Changed

/-- The list of each owner is exact, also behind each change that succeeds. -/
theorem list_spec (s : VariableStore) :
    (∀ errno, s.directory.unlistable = some errno →
      ∀ scope, s.list scope = .error (.ofErrno .listing "." errno)) ∧
    (s.directory.unlistable = none →
      ∀ scope, ∃ names, s.list scope = .ok names ∧ Listing s scope names) ∧
    (∀ scope scope' name name', variableFile scope name = variableFile scope' name' →
      scope = scope' ∧ name = name') ∧
    (∀ scope name attributes value t, (s.write scope name attributes value).value = (.ok (), t) →
      Relisted s t scope name True) ∧
    ∀ scope name t, (s.delete scope name).value = (.ok (), t) → Relisted s t scope name False := by
  refine ⟨fun _ h _ => list_of_unlistable h, ?_, fun _ _ _ _ => variableFile_inj, ?_, ?_⟩
  · intro listable scope
    exact ⟨_, list_of_listable listable, listing_of_list (list_of_listable listable)⟩
  · intro scope name attributes value t h
    simpa [Change.node?] using relisted_of_change (c := .write attributes value) h
  · intro scope name t h
    simpa [Change.node?] using relisted_of_change (c := .delete) h

end VariableStore

end Firmware

end NextBoot
