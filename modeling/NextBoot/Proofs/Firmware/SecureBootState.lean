import NextBoot.Proofs.Firmware.ListedEntries

/-! What a store tells of Secure Boot. It is told by two variables. One of them may be missing, but
neither may be there and not be readable. -/
namespace NextBoot.Firmware

namespace Variable

/-- The value stands behind the attributes in the variable's file. -/
def Holds (v : Variable) (d : Directory) (value : Bytes) : Prop :=
  ∃ content, d.get? v.file = some (.file content) ∧ Attributes.size ≤ content.length ∧
    content.drop Attributes.size = value

section Read
variable {v : Variable} {s : VariableStore} {value : Bytes}

theorem holds_iff_read : v.Holds s.directory value ↔
    (s.read v.scope v.name).map Prod.fst = .ok value := by
  rw [read_eq_readNode, readNode_eq_ok_iff]
  rfl

theorem Holds.exists_read (h : v.Holds s.directory value) :
    ∃ attributes, s.read v.scope v.name = .ok (value, attributes) := by
  rw [holds_iff_read] at h
  cases hread : s.read v.scope v.name with
  | error e =>
    rw [hread] at h
    cases h
  | ok found =>
    rw [hread] at h
    cases h
    exact ⟨found.2, rfl⟩

theorem exists_error_of_not_holds (h : ∀ value, ¬v.Holds s.directory value) :
    ∃ e, s.read v.scope v.name = .error e := by
  cases hread : s.read v.scope v.name with
  | error e => exact ⟨e, rfl⟩
  | ok found =>
    refine absurd (holds_iff_read.mpr ?_) (h found.1)
    rw [hread]
    rfl

theorem read_of_absent (h : s.directory.get? v.file = none) :
    s.read v.scope v.name = .error (.notFound v.name) := by
  rw [read_eq_readNode, h]
  rfl

/-- What is there is never said to be missing. -/
theorem read_ne_notFound (h : s.directory.get? v.file ≠ none) (name : String) :
    s.read v.scope v.name ≠ .error (.notFound name) := by
  obtain ⟨node, hnode⟩ := Option.ne_none_iff_exists'.mp h
  rw [read_eq_readNode, hnode]
  exact v.readNode_ne_notFound node name

end Read

end Variable

def secureBootVariable : Variable where
  scope := .globalVariable
  name := "SecureBoot"
  component := by decide
  text := by decide
  fits := by decide

def setupModeVariable : Variable where
  scope := .globalVariable
  name := "SetupMode"
  component := by decide
  text := by decide
  fits := by decide

/-- What is known of Secure Boot with a store, or without one. Nothing is set where nothing can be
read. -/
inductive SecureBootTold : Option VariableStore → SecureBoot → Prop where
  | noStore : SecureBootTold none ⟨false, false⟩
  | unreadable {s : VariableStore} (state : ∀ value, ¬secureBootVariable.Holds s.directory value) :
    SecureBootTold (some s) ⟨false, false⟩
  | setupUnreadable {s : VariableStore}
    (present : s.directory.get? setupModeVariable.file ≠ none)
    (setup : ∀ value, ¬setupModeVariable.Holds s.directory value) :
    SecureBootTold (some s) ⟨false, false⟩
  | setupAbsent {s : VariableStore} {value : Bytes}
    (state : secureBootVariable.Holds s.directory value)
    (absent : s.directory.get? setupModeVariable.file = none) :
    SecureBootTold (some s) ⟨value.head? = some 1, false⟩
  | read {s : VariableStore} {value setupValue : Bytes}
    (state : secureBootVariable.Holds s.directory value)
    (setup : setupModeVariable.Holds s.directory setupValue) :
    SecureBootTold (some s) ⟨value.head? = some 1, setupValue.head? = some 1⟩

namespace VariableStore

variable {s : VariableStore} {value setupValue : Bytes}

theorem secureBoot_of_unreadable (h : ∀ value, ¬secureBootVariable.Holds s.directory value) :
    ∃ e, s.secureBoot = .error e := by
  obtain ⟨e, hread⟩ := Variable.exists_error_of_not_holds h
  have hname : s.read .globalVariable "SecureBoot" = .error e := hread
  exact ⟨e, by rw [secureBoot, hname]; rfl⟩

/-- The two variables are read one after the other. -/
theorem secureBoot_of_holds (h : secureBootVariable.Holds s.directory value) :
    s.secureBoot = match s.read setupModeVariable.scope setupModeVariable.name with
      | .ok (setup, _) => .ok ⟨value.head? = some 1, setup.head? = some 1⟩
      | .error (.notFound _) => .ok ⟨value.head? = some 1, false⟩
      | .error e => .error e := by
  obtain ⟨attributes, hread⟩ := h.exists_read
  have hname : s.read .globalVariable "SecureBoot" = .ok (value, attributes) := hread
  rw [secureBoot, hname]
  rfl

theorem secureBoot_of_setupUnreadable (present : s.directory.get? setupModeVariable.file ≠ none)
    (h : ∀ value, ¬setupModeVariable.Holds s.directory value) : ∃ e, s.secureBoot = .error e := by
  by_cases hstate : ∃ value, secureBootVariable.Holds s.directory value
  · obtain ⟨value, hstate⟩ := hstate
    obtain ⟨e, hread⟩ := Variable.exists_error_of_not_holds h
    have hne := Variable.read_ne_notFound present
    rw [hread] at hne
    rw [secureBoot_of_holds hstate, hread]
    cases e with
    | notFound name => exact absurd rfl (hne name)
    | malformed | readOnly | io => exact ⟨_, rfl⟩
  · exact secureBoot_of_unreadable (not_exists.mp hstate)

/-- What is told of a store that can be asked is what asking it answers. -/
theorem secureBootTold_iff {state : SecureBoot} :
    SecureBootTold (some s) state ↔ (s.secureBoot).toOption.getD default = state := by
  have hsound {state : SecureBoot} (told : SecureBootTold (some s) state) :
      (s.secureBoot).toOption.getD default = state := by
    cases told with
    | unreadable h =>
      obtain ⟨e, he⟩ := secureBoot_of_unreadable h
      rw [he]
      rfl
    | setupUnreadable present h =>
      obtain ⟨e, he⟩ := secureBoot_of_setupUnreadable present h
      rw [he]
      rfl
    | setupAbsent hstate absent =>
      rw [secureBoot_of_holds hstate, Variable.read_of_absent absent]
      rfl
    | read hstate hsetup =>
      obtain ⟨attributes, hread⟩ := hsetup.exists_read
      rw [secureBoot_of_holds hstate, hread]
      rfl
  refine ⟨hsound, ?_⟩
  rintro rfl
  have htold : ∃ state, SecureBootTold (some s) state := by
    by_cases hstate : ∃ value, secureBootVariable.Holds s.directory value
    · obtain ⟨value, hstate⟩ := hstate
      by_cases hsetup : ∃ value, setupModeVariable.Holds s.directory value
      · exact ⟨_, .read hstate hsetup.choose_spec⟩
      · by_cases habsent : s.directory.get? setupModeVariable.file = none
        · exact ⟨_, .setupAbsent hstate habsent⟩
        · exact ⟨_, .setupUnreadable habsent (not_exists.mp hsetup)⟩
    · exact ⟨_, .unreadable (not_exists.mp hstate)⟩
  obtain ⟨state, told⟩ := htold
  rwa [hsound told]

end VariableStore

end NextBoot.Firmware
