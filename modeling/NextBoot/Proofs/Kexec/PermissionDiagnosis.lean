import NextBoot.Kexec.Diagnostics
import NextBoot.Proofs.Firmware.SecureBootState
import NextBoot.Proofs.Text.EncodedParts

/-! Which cause is told where the system does not permit a load. Lockdown comes first, then the
setting of the administrator. What cannot be read tells of no cause, and hides none either. -/
namespace NextBoot

theorem PathState.readText_eq_ok_iff {state : PathState} {text : String} :
    state.readText = .ok text ↔ state = .file (Text.Utf8.encode text) := by
  cases state with
  | missing | blocked | directory => exact ⟨nofun, nofun⟩
  | file content =>
    have hread : (PathState.file content).read = .ok content := rfl
    unfold readText
    rw [hread, Outcome.ok_bind, PathState.file.injEq, ← Text.Utf8.decode?_eq_some_iff]
    cases Text.Utf8.decode? content <;> simp

namespace Kexec

open NextBoot.Firmware (SecureBoot SecureBootTold VariableStore)

theorem mentions_iff {word cs : List Char} : mentions word cs = true ↔ word <:+: cs := by
  induction cs with
  | nil => simp [mentions]
  | cons c cs ih =>
    rw [mentions, Bool.or_eq_true, List.isPrefixOf_iff_prefix, ih, List.infix_cons_iff]

/-- The file holds this text, but for blanks at its ends. -/
def HoldsTrimmed (state : PathState) (trimmed : String) : Prop :=
  ∃ text, state = .file (Text.Utf8.encode text) ∧ Text.trim text = trimmed

namespace Diagnostics

/-- What is found where a file is looked into. All failures come to nothing, as a missing file does. -/
def found (state : PathState) : Option String :=
  (Logged.orWarn IoError.message (readTrimmed state)).value.join

theorem found_eq (state : PathState) : found state = state.readText.toOption.map Text.trim := by
  cases state with
  | missing | blocked | directory => rfl
  | file content =>
    show (Logged.orWarn _ ((PathState.file content).readText.map _)).value.join = _
    cases (PathState.file content).readText <;> rfl

theorem found_eq_some_iff {state : PathState} {trimmed : String} :
    found state = some trimmed ↔ HoldsTrimmed state trimmed := by
  rw [found_eq, Option.map_eq_some_iff]
  unfold HoldsTrimmed
  simp only [← PathState.readText_eq_ok_iff]
  cases state.readText <;> simp [Except.toOption]

theorem found_of_unreadable {state : PathState} {e : IoError} (h : state.readText = .error e) :
    found state = none := by
  rw [found_eq, h]
  rfl

variable {d : Diagnostics}

/-- The mode in effect is marked by brackets. -/
def InLockdown (d : Diagnostics) (mode : String) : Prop :=
  HoldsTrimmed d.lockdownFile mode ∧
    ("[integrity]".toList <:+: mode.toList ∨ "[confidentiality]".toList <:+: mode.toList)

theorem lockdown_value : d.lockdown.value = (found d.lockdownFile).filter isActiveMode := rfl

theorem loadDisabled_value : d.loadDisabled.value = decide (found d.disabledFile = some "1") := rfl

theorem lockdown_value_iff {mode : String} :
    d.lockdown.value = some mode ↔ d.InLockdown mode := by
  rw [lockdown_value, Option.filter_eq_some_iff, found_eq_some_iff, InLockdown, isActiveMode,
    Bool.or_eq_true, mentions_iff, mentions_iff]

theorem lockdown_value_eq_none_iff : d.lockdown.value = none ↔ ∀ mode, ¬d.InLockdown mode := by
  simp only [Option.eq_none_iff_forall_ne_some, ne_eq, lockdown_value_iff]

theorem loadDisabled_value_iff :
    d.loadDisabled.value = true ↔ HoldsTrimmed d.disabledFile "1" := by
  rw [loadDisabled_value, decide_eq_true_eq, found_eq_some_iff]

theorem secureBoot_value_iff {state : SecureBoot} :
    d.secureBoot.value = state ↔ SecureBootTold d.store state := by
  unfold secureBoot
  cases d.store with
  | none =>
    constructor
    · rintro rfl
      exact .noStore
    · intro told
      cases told
      rfl
  | some store =>
    rw [VariableStore.secureBootTold_iff]
    show (Logged.orWarnDefault _ store.secureBoot).value = state ↔ _
    cases store.secureBoot <;> rfl

theorem permissionDenied_value : d.permissionDenied.value =
    match d.lockdown.value with
    | some mode => .lockdown mode d.secureBoot.value
    | none => if d.loadDisabled.value then .administrativelyDisabled else .unknown := by
  unfold permissionDenied
  rw [Logged.value_bind]
  cases d.lockdown.value with
  | some mode => rfl
  | none =>
    simp only [Logged.value_bind]
    split <;> rfl

theorem permissionDenied_eq_lockdown_iff {mode : String} {state : SecureBoot} :
    d.permissionDenied.value = .lockdown mode state ↔
      d.InLockdown mode ∧ SecureBootTold d.store state := by
  rw [permissionDenied_value, ← lockdown_value_iff, ← secureBoot_value_iff]
  cases d.lockdown.value with
  | some found => simp
  | none =>
    dsimp only
    split <;> simp

theorem permissionDenied_eq_disabled_iff :
    d.permissionDenied.value = .administrativelyDisabled ↔
      (∀ mode, ¬d.InLockdown mode) ∧ HoldsTrimmed d.disabledFile "1" := by
  rw [permissionDenied_value, ← lockdown_value_eq_none_iff, ← loadDisabled_value_iff]
  cases d.lockdown.value with
  | some found => simp
  | none => cases d.loadDisabled.value <;> simp

theorem permissionDenied_eq_unknown_iff :
    d.permissionDenied.value = .unknown ↔
      (∀ mode, ¬d.InLockdown mode) ∧ ¬HoldsTrimmed d.disabledFile "1" := by
  rw [permissionDenied_value, ← lockdown_value_eq_none_iff, ← loadDisabled_value_iff]
  cases d.lockdown.value with
  | some found => simp
  | none => cases d.loadDisabled.value <;> simp

/-- Every cause is told in its own circumstances, and in no others. -/
theorem permissionDenied_spec (d : Diagnostics) :
    (∀ mode state, d.permissionDenied.value = .lockdown mode state ↔
      d.InLockdown mode ∧ SecureBootTold d.store state) ∧
    (d.permissionDenied.value = .administrativelyDisabled ↔
      (∀ mode, ¬d.InLockdown mode) ∧ HoldsTrimmed d.disabledFile "1") ∧
    (d.permissionDenied.value = .unknown ↔
      (∀ mode, ¬d.InLockdown mode) ∧ ¬HoldsTrimmed d.disabledFile "1") ∧
    (∀ e, d.lockdownFile.readText = .error e → d.permissionDenied.value =
      (Diagnostics.permissionDenied { d with lockdownFile := .missing }).value) ∧
    ∀ e, d.disabledFile.readText = .error e → d.permissionDenied.value =
      (Diagnostics.permissionDenied { d with disabledFile := .missing }).value := by
  refine ⟨fun _ _ => permissionDenied_eq_lockdown_iff, permissionDenied_eq_disabled_iff,
    permissionDenied_eq_unknown_iff, ?_, ?_⟩
  · intro e h
    simp only [permissionDenied_value, lockdown_value, found_of_unreadable h]
    rfl
  · intro e h
    simp only [permissionDenied_value, loadDisabled_value, found_of_unreadable h]
    rfl

/-- A directory in place of the one file does not keep the setting in the other from being told. -/
example : (Diagnostics.permissionDenied ⟨.directory, .file [0x31, 0x0A], none⟩).value =
    .administrativelyDisabled := by decide +kernel

end Diagnostics

end Kexec

end NextBoot
