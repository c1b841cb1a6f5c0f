import Mathlib.Logic.Relation
import NextBoot.Proofs.Firmware.FailedChanges

/-! What writes that succeed leave of the inode flags. The immutable flag is set again just if it was
cleared, and the word set then is the one that was read before, so no other flag is touched. -/
namespace NextBoot.Firmware

open Relation (ReflTransGen)

/-! ### Clearing and restoring -/

namespace InodeFlags

/-- Every reading asked for since tells the bits. -/
def Readable (f f' : InodeFlags) : Prop :=
  ∀ n, f.gets ≤ n → n < f'.gets → ∀ bits, f.readings.answer bits n = .ok bits

/-- Every reading asked for since fails. -/
def Unreadable (f f' : InodeFlags) : Prop :=
  ∀ n, f.gets ≤ n → n < f'.gets → ∀ bits, ∃ e, f.readings.answer bits n = .error e

/-- Every change asked for since is made. -/
def Changeable (f f' : InodeFlags) : Prop :=
  ∀ before, f.sets.length ≤ before.length → before.length < f'.sets.length →
    ∀ bits, f.changes.refusal? before bits = none

/-- Every change asked for since is refused. -/
def Unchangeable (f f' : InodeFlags) : Prop :=
  ∀ before, f.sets.length ≤ before.length → before.length < f'.sets.length →
    ∀ bits, ∃ e, f.changes.refusal? before bits = some e

/-- Between the two, readings either always work or always fail, and so do changes. -/
structure Steady (f f' : InodeFlags) : Prop where
  readings : Readable f f' ∨ Unreadable f f'
  changes : Changeable f f' ∨ Unchangeable f f'

theorem Working.readable {f : InodeFlags} (working : f.Working) (f' : InodeFlags) : Readable f f' :=
  fun n _ _ bits => working.reads bits n

theorem Working.changeable {f : InodeFlags} (working : f.Working) (f' : InodeFlags) :
    Changeable f f' :=
  fun before _ _ bits => working.changes before bits

theorem Working.steady {f : InodeFlags} (working : f.Working) (f' : InodeFlags) : Steady f f' :=
  ⟨.inl (working.readable f'), .inl (working.changeable f')⟩

/-- Clear the immutable flag, and set it again if it was cleared. -/
def clearAndRestore (f : InodeFlags) : InodeFlags :=
  match f.clearImmutable with
  | (.ok true, cleared) => cleared.setImmutable.2
  | (_, cleared) => cleared

/-- What clearing and restoring asks of flags that are steady meanwhile. -/
inductive Passage (f : InodeFlags) : InodeFlags → Prop
  | unread {e : Errno} : f.readings.answer f.bits f.gets = .error e →
      Passage f { f with gets := f.gets + 1 }
  | clear : f.readings.answer f.bits f.gets = .ok f.bits → f.bits &&& immutable = 0 →
      Passage f { f with gets := f.gets + 1 }
  | refused {e : Errno} : f.readings.answer f.bits f.gets = .ok f.bits →
      f.bits &&& immutable ≠ 0 → f.changes.refusal? f.sets (f.bits &&& ~~~immutable) = some e →
      Passage f { f with gets := f.gets + 1, sets := f.sets ++ [f.bits &&& ~~~immutable] }
  | restored : f.readings.answer f.bits f.gets = .ok f.bits →
      f.bits &&& immutable ≠ 0 → f.changes.refusal? f.sets (f.bits &&& ~~~immutable) = none →
      Passage f { f with gets := f.gets + 2, sets := f.sets ++ [f.bits &&& ~~~immutable, f.bits] }

theorem and_immutable_of_ne_zero {bits : UInt32} (set : bits &&& immutable ≠ 0) :
    bits &&& immutable = immutable := by
  have hpow : immutable.toBitVec = BitVec.twoPow 32 4 := by decide
  rw [← UInt32.toBitVec_inj, UInt32.toBitVec_and, hpow, BitVec.and_twoPow]
  split
  next => rfl
  next hbit =>
    refine absurd ?_ set
    rw [← UInt32.toBitVec_inj, UInt32.toBitVec_and, hpow, BitVec.and_twoPow, if_neg hbit]
    rfl

/-- Setting the bit that was cleared gives the word it was cleared of. -/
theorem restored_bits {bits : UInt32} (set : bits &&& immutable ≠ 0) :
    bits &&& ~~~immutable ||| immutable = bits := by
  have hsplit := and_not_or_and bits immutable
  rwa [and_immutable_of_ne_zero set] at hsplit

@[simp] theorem sets_set (f : InodeFlags) (bits : UInt32) :
    (f.set bits).2.sets = f.sets ++ [bits] := by
  unfold set
  split <;> rfl

section Clear
variable {f : InodeFlags} {told : UInt32} {e : Errno}

theorem clearImmutable_of_unread (unread : f.readings.answer f.bits f.gets = .error e) :
    f.clearImmutable = (.error e, { f with gets := f.gets + 1 }) := by
  simp only [clearImmutable, get, unread]

theorem clearImmutable_of_clear (read : f.readings.answer f.bits f.gets = .ok told)
    (clear : told &&& immutable = 0) :
    f.clearImmutable = (.ok false, { f with gets := f.gets + 1 }) := by
  simp only [clearImmutable, get, read, if_pos clear]

theorem clearImmutable_of_refused (read : f.readings.answer f.bits f.gets = .ok told)
    (isSet : told &&& immutable ≠ 0)
    (refused : f.changes.refusal? f.sets (told &&& ~~~immutable) = some e) :
    f.clearImmutable = (.error e,
      { f with gets := f.gets + 1, sets := f.sets ++ [told &&& ~~~immutable] }) := by
  simp only [clearImmutable, get, read, if_neg isSet, set, refused]

theorem clearImmutable_of_made (read : f.readings.answer f.bits f.gets = .ok told)
    (isSet : told &&& immutable ≠ 0)
    (made : f.changes.refusal? f.sets (told &&& ~~~immutable) = none) :
    f.clearImmutable = (.ok true, { f with
      bits := told &&& ~~~immutable
      gets := f.gets + 1
      sets := f.sets ++ [told &&& ~~~immutable] }) := by
  simp only [clearImmutable, get, read, if_neg isSet, set, made]

theorem gets_clearImmutable (f : InodeFlags) : f.clearImmutable.2.gets = f.gets + 1 := by
  cases read : f.readings.answer f.bits f.gets with
  | error e => rw [clearImmutable_of_unread read]
  | ok told =>
    by_cases clear : told &&& immutable = 0
    · rw [clearImmutable_of_clear read clear]
    · cases made : f.changes.refusal? f.sets (told &&& ~~~immutable) with
      | some e => rw [clearImmutable_of_refused read clear made]
      | none => rw [clearImmutable_of_made read clear made]

theorem setImmutable_of_read (read : f.readings.answer f.bits f.gets = .ok told) :
    f.setImmutable = { f with gets := f.gets + 1 }.set (told ||| immutable) := by
  simp only [setImmutable, get, read]

theorem gets_setImmutable (f : InodeFlags) : f.setImmutable.2.gets = f.gets + 1 := by
  cases read : f.readings.answer f.bits f.gets with
  | error e => simp only [setImmutable, get, read]
  | ok told =>
    rw [setImmutable_of_read read, set]
    split <;> rfl

end Clear

variable {f : InodeFlags}

theorem gets_lt_clearAndRestore (f : InodeFlags) : f.gets < f.clearAndRestore.gets := by
  have hcleared := gets_clearImmutable f
  unfold clearAndRestore
  split
  next cleared h =>
    have hrestored := gets_setImmutable cleared
    simp only [h] at hcleared
    omega
  next h =>
    simp only [h] at hcleared
    omega

/-- Steady readings that worked once tell the bits. -/
theorem Steady.told_eq (steady : Steady f f.clearAndRestore) {told : UInt32}
    (read : f.readings.answer f.bits f.gets = .ok told) :
    Readable f f.clearAndRestore ∧ told = f.bits := by
  have hlt := gets_lt_clearAndRestore f
  rcases steady.readings with readable | unreadable
  · have hbits := readable f.gets (Nat.le_refl _) hlt f.bits
    rw [read] at hbits
    exact ⟨readable, Except.ok.inj hbits⟩
  · obtain ⟨e, hfails⟩ := unreadable f.gets (Nat.le_refl _) hlt f.bits
    rw [read] at hfails
    cases hfails

/-- What was cleared is restored: the second reading tells what was set, and the second change is
made as the first was. -/
theorem Steady.clearAndRestore_of_made (steady : Steady f f.clearAndRestore)
    (read : f.readings.answer f.bits f.gets = .ok f.bits) (isSet : f.bits &&& immutable ≠ 0)
    (made : f.changes.refusal? f.sets (f.bits &&& ~~~immutable) = none) :
    f.clearAndRestore =
      { f with gets := f.gets + 2, sets := f.sets ++ [f.bits &&& ~~~immutable, f.bits] } := by
  generalize hcleared : ({ f with
    bits := f.bits &&& ~~~immutable
    gets := f.gets + 1
    sets := f.sets ++ [f.bits &&& ~~~immutable] } : InodeFlags) = cleared
  have hcall : f.clearAndRestore = cleared.setImmutable.2 := by
    rw [clearAndRestore, clearImmutable_of_made read isSet made, hcleared]
  have hgets : f.clearAndRestore.gets = f.gets + 2 := by
    rw [hcall, gets_setImmutable, ← hcleared]
  have readAgain : cleared.readings.answer cleared.bits cleared.gets = .ok cleared.bits := by
    rw [← hcleared]
    exact (steady.told_eq read).1 (f.gets + 1) (Nat.le_succ _) (by omega) _
  have hset : f.clearAndRestore = ({ cleared with gets := cleared.gets + 1 }.set f.bits).2 := by
    rw [hcall, setImmutable_of_read readAgain, ← hcleared, restored_bits isSet]
  have hsets : f.clearAndRestore.sets = f.sets ++ [f.bits &&& ~~~immutable, f.bits] := by
    rw [hset, sets_set, ← hcleared, List.append_assoc]
    rfl
  have madeAgain : cleared.changes.refusal? cleared.sets f.bits = none := by
    have hlength : f.clearAndRestore.sets.length = f.sets.length + 2 := by simp [hsets]
    rcases steady.changes with changeable | unchangeable
    · rw [← hcleared]
      exact changeable _ (by simp) (by simp [hlength]) f.bits
    · obtain ⟨e, refused⟩ := unchangeable f.sets (Nat.le_refl _) (by omega) (f.bits &&& ~~~immutable)
      rw [made] at refused
      cases refused
  rw [hset]
  simp only [set, madeAgain]
  rw [← hcleared, List.append_assoc]
  rfl

theorem Steady.passage (steady : Steady f f.clearAndRestore) : Passage f f.clearAndRestore := by
  cases read : f.readings.answer f.bits f.gets with
  | error e =>
    have hcall : f.clearAndRestore = { f with gets := f.gets + 1 } := by
      rw [clearAndRestore, clearImmutable_of_unread read]
    rw [hcall]
    exact .unread read
  | ok told =>
    obtain rfl := (steady.told_eq read).2
    by_cases clear : f.bits &&& immutable = 0
    · have hcall : f.clearAndRestore = { f with gets := f.gets + 1 } := by
        rw [clearAndRestore, clearImmutable_of_clear read clear]
      rw [hcall]
      exact .clear read clear
    · cases made : f.changes.refusal? f.sets (f.bits &&& ~~~immutable) with
      | some e =>
        have hcall : f.clearAndRestore =
            { f with gets := f.gets + 1, sets := f.sets ++ [f.bits &&& ~~~immutable] } := by
          rw [clearAndRestore, clearImmutable_of_refused read clear made]
        rw [hcall]
        exact .refused read clear made
      | none =>
        rw [steady.clearAndRestore_of_made read clear made]
        exact .restored read clear made

namespace Passage

variable {f f' : InodeFlags}

theorem bits_eq (passage : Passage f f') : f'.bits = f.bits := by
  cases passage <;> rfl

theorem sets_of_unreadable (passage : Passage f f') (unreadable : Unreadable f f') :
    f'.sets = f.sets := by
  have hfails (hlt : f.gets < f'.gets) := unreadable f.gets (Nat.le_refl _) hlt f.bits
  cases passage with
  | unread _ => rfl
  | clear _ _ => rfl
  | refused read _ _ =>
    obtain ⟨e, unread⟩ := hfails (Nat.lt_succ_self _)
    rw [read] at unread
    cases unread
  | restored read _ _ =>
    obtain ⟨e, unread⟩ := hfails (by dsimp only; omega)
    rw [read] at unread
    cases unread

theorem sets_of_clear (passage : Passage f f') (clear : f.bits &&& immutable = 0) :
    f'.sets = f.sets := by
  cases passage with
  | unread _ => rfl
  | clear _ _ => rfl
  | refused _ isSet _ => exact absurd clear isSet
  | restored _ isSet _ => exact absurd clear isSet

theorem sets_of_changeable (passage : Passage f f') (readable : Readable f f')
    (isSet : f.bits &&& immutable ≠ 0) (changeable : Changeable f f') :
    f'.sets = f.sets ++ [f.bits &&& ~~~immutable, f.bits] := by
  cases passage with
  | unread unread =>
    rw [readable f.gets (Nat.le_refl _) (Nat.lt_succ_self _) f.bits] at unread
    cases unread
  | clear _ clear => exact absurd clear isSet
  | refused _ _ refused =>
    rw [changeable f.sets (Nat.le_refl _) (by simp)] at refused
    cases refused
  | restored _ _ _ => rfl

theorem sets_of_unchangeable (passage : Passage f f') (readable : Readable f f')
    (isSet : f.bits &&& immutable ≠ 0) (unchangeable : Unchangeable f f') :
    f'.sets = f.sets ++ [f.bits &&& ~~~immutable] := by
  cases passage with
  | unread unread =>
    rw [readable f.gets (Nat.le_refl _) (Nat.lt_succ_self _) f.bits] at unread
    cases unread
  | clear _ clear => exact absurd clear isSet
  | refused _ _ _ => rfl
  | restored _ _ made =>
    obtain ⟨e, refused⟩ := unchangeable f.sets (Nat.le_refl _) (by simp) (f.bits &&& ~~~immutable)
    rw [made] at refused
    cases refused

end Passage

/-- All words that were set since are the bits, but for the immutable one. -/
def TouchesOnlyImmutable (f f' : InodeFlags) : Prop :=
  ∃ asked, f'.sets = f.sets ++ asked ∧
    ∀ word ∈ asked, word &&& ~~~immutable = f.bits &&& ~~~immutable

theorem TouchesOnlyImmutable.refl (f : InodeFlags) : TouchesOnlyImmutable f f :=
  ⟨[], by rw [List.append_nil], nofun⟩

theorem TouchesOnlyImmutable.trans {f f' f'' : InodeFlags} (first : TouchesOnlyImmutable f f')
    (bits : f'.bits = f.bits) (second : TouchesOnlyImmutable f' f'') : TouchesOnlyImmutable f f'' := by
  obtain ⟨asked, hsets, hasked⟩ := first
  obtain ⟨later, hlater, haskedLater⟩ := second
  refine ⟨asked ++ later, by rw [hlater, hsets, List.append_assoc], ?_⟩
  rw [bits] at haskedLater
  exact List.forall_mem_append.mpr ⟨hasked, haskedLater⟩

theorem Passage.touchesOnlyImmutable {f f' : InodeFlags} (passage : Passage f f') :
    TouchesOnlyImmutable f f' := by
  have hcleared : f.bits &&& ~~~immutable &&& ~~~immutable = f.bits &&& ~~~immutable := by
    rw [UInt32.and_assoc, UInt32.and_self]
  cases passage with
  | unread _ => exact ⟨[], by rw [List.append_nil], nofun⟩
  | clear _ _ => exact ⟨[], by rw [List.append_nil], nofun⟩
  | refused _ _ _ => exact ⟨_, rfl, by simpa using hcleared⟩
  | restored _ _ _ => exact ⟨_, rfl, by simpa using hcleared⟩

end InodeFlags

/-! ### Writes that succeed -/

namespace VariableStore

section
variable {s next : VariableStore} {scope : Guid} {name : String} {attributes : Attributes}
  {value : Bytes}

theorem clearImmutable_of_absent {file : Bytes}
    (absent : s.directory.openNode file = .error .noEntry) :
    s.clearImmutable file = (.ok false, s) := by
  simp only [clearImmutable, absent, Errno.noEntry]

theorem flags_setImmutable_of_opened {file : Bytes} {node : Node}
    (opened : s.directory.openNode file = .ok node) :
    (s.setImmutable file).2.flags = s.flags.setImmutable.2 := by
  simp only [setImmutable, opened]

/-- Flags are asked for just if the file was there before. -/
theorem flags_of_write (wrote : (s.write scope name attributes value).value = (.ok (), next)) :
    next.flags =
      if s.directory.get? (variableFile scope name) = none then s.flags
      else s.flags.clearAndRestore := by
  have hok : (s.write scope name attributes value).value.1 = .ok () := congrArg Prod.fst wrote
  obtain ⟨hw, hname, hnode, hwhole⟩ := write_eq_ok_iff.mp hok
  rw [write_eq_of_created hw (create_of_file hname hnode)] at wrote
  simp only [ofAnswer_eq_ok_iff.mpr hwhole, Prod.mk.injEq] at wrote
  obtain ⟨-, rfl⟩ := wrote
  have hopen := openNode_eq (d := s.directory) hname
  cases hbefore : s.directory.get? (variableFile scope name) with
  | none =>
    rw [hbefore] at hopen
    rw [clearImmutable_of_absent hopen, if_pos rfl]
    exact congrArg (·.2.flags) (clearImmutable_of_absent hopen)
  | some node =>
    rw [hbefore] at hopen
    -- The file that was written is there to be opened for its flags again.
    obtain ⟨written, hthere⟩ : ∃ written, (s.recorded (variableFile scope name)
        (variableContent attributes.granted value)).directory.openNode (variableFile scope name) =
          .ok written := by
      rw [openNode_eq hname, recorded, Directory.get?_insert, if_pos rfl]
      exact ⟨_, rfl⟩
    have hcleared : (s.recorded (variableFile scope name)
        (variableContent attributes.granted value)).flags = s.flags.clearImmutable.2 :=
      congrArg (·.2.flags) (clearImmutable_of_opened hopen)
    rw [clearImmutable_of_opened hopen, if_neg nofun, InodeFlags.clearAndRestore]
    rcases hc : s.flags.clearImmutable with ⟨_ | _ | _, cleared⟩
    · rw [hcleared, hc]
    · rw [hcleared, hc]
    · rw [flags_setImmutable_of_opened hthere, hcleared, hc]

/-- One store is left by another by a write that succeeds, while the flags are steady. -/
def WritesTo (s next : VariableStore) : Prop :=
  ∃ scope name attributes value,
    (s.write scope name attributes value).value = (.ok (), next) ∧ s.flags.Steady next.flags

theorem flags_of_writesTo (writes : s.WritesTo next) :
    next.flags = s.flags ∨ s.flags.Passage next.flags := by
  obtain ⟨scope, name, attributes, value, wrote, steady⟩ := writes
  have hflags := flags_of_write wrote
  split at hflags
  next => exact .inl hflags
  next =>
    rw [hflags] at steady ⊢
    exact .inr steady.passage

theorem flags_of_run {start : VariableStore} (run : ReflTransGen WritesTo start s) :
    s.flags.bits = start.flags.bits ∧ start.flags.TouchesOnlyImmutable s.flags := by
  induction run with
  | refl => exact ⟨rfl, .refl _⟩
  | tail _ writes ih =>
    obtain ⟨hbits, htouches⟩ := ih
    rcases flags_of_writesTo writes with hsame | passage
    · rw [hsame]
      exact ⟨hbits, htouches⟩
    · exact ⟨passage.bits_eq.trans hbits, htouches.trans hbits passage.touchesOnlyImmutable⟩

/-- At any point of a run of writes that succeed, with steady flags during each, the bits are those
that the run began with, and no word was set that differs from them in another flag. A write asks
nothing about a file that is not there, and sets nothing if the flags cannot be read or are without the
immutable one. Otherwise it sets the word without that one and, if this works, the whole word again. -/
theorem write_keeps_flags {start : VariableStore} (run : ReflTransGen WritesTo start s)
    (wrote : (s.write scope name attributes value).value = (.ok (), next))
    (steady : s.flags.Steady next.flags) :
    next.flags.bits = start.flags.bits ∧
      start.flags.TouchesOnlyImmutable next.flags ∧
      (s.directory.get? (variableFile scope name) = none → next.flags = s.flags) ∧
      (s.flags.Unreadable next.flags → next.flags.sets = s.flags.sets) ∧
      (start.flags.bits &&& InodeFlags.immutable = 0 → next.flags.sets = s.flags.sets) ∧
      (s.directory.get? (variableFile scope name) ≠ none → s.flags.Readable next.flags →
        start.flags.bits &&& InodeFlags.immutable ≠ 0 →
        (s.flags.Changeable next.flags → next.flags.sets = s.flags.sets ++
          [start.flags.bits &&& ~~~InodeFlags.immutable, start.flags.bits]) ∧
        (s.flags.Unchangeable next.flags → next.flags.sets = s.flags.sets ++
          [start.flags.bits &&& ~~~InodeFlags.immutable])) := by
  have writes : s.WritesTo next := ⟨scope, name, attributes, value, wrote, steady⟩
  obtain ⟨hkept, htouches⟩ := flags_of_run (run.tail writes)
  have hbits : start.flags.bits = s.flags.bits := (flags_of_run run).1.symm
  refine ⟨hkept, htouches, ?_⟩
  rw [hbits]
  have hflags := flags_of_write wrote
  by_cases absent : s.directory.get? (variableFile scope name) = none
  · rw [if_pos absent] at hflags
    have hsets : next.flags.sets = s.flags.sets := by rw [hflags]
    exact ⟨fun _ => hflags, fun _ => hsets, fun _ => hsets, fun there => absurd absent there⟩
  · rw [if_neg absent] at hflags
    have passage : s.flags.Passage next.flags := by
      rw [hflags] at steady ⊢
      exact steady.passage
    exact ⟨fun h => absurd h absent, passage.sets_of_unreadable, passage.sets_of_clear,
      fun _ readable isSet => ⟨passage.sets_of_changeable readable isSet,
        passage.sets_of_unchangeable readable isSet⟩⟩

/-- One variable is there, and all files have the immutable flag and another one. -/
def flaggedStore : VariableStore where
  directory := .ofList [(variableFile .globalVariable "BootOrder", .file [7, 0, 0, 0])]
  writable := true
  flags := ⟨48, false, false, 0, []⟩

/-- The store after a variable was written that was not there. -/
def flaggedStore.grown : VariableStore :=
  (flaggedStore.write .globalVariable "BootNext" ⟨7⟩ [1, 0]).value.2

/-- The variable that was there is written next, and its flag is cleared and set again; the other
flag stays. -/
theorem write_keeps_flags_flaggedStore :
    (flaggedStore.grown.write .globalVariable "BootOrder" ⟨7⟩ [1, 0]).value.2.flags.bits = 48 ∧
      (flaggedStore.grown.write .globalVariable "BootOrder" ⟨7⟩ [1, 0]).value.2.flags.sets =
        [32, 48] := by
  have hfirst : (flaggedStore.write .globalVariable "BootNext" ⟨7⟩ [1, 0]).value =
      (.ok (), flaggedStore.grown) := Prod.ext (by decide +kernel) rfl
  have hsecond : (flaggedStore.grown.write .globalVariable "BootOrder" ⟨7⟩ [1, 0]).value =
      (.ok (), (flaggedStore.grown.write .globalVariable "BootOrder" ⟨7⟩ [1, 0]).value.2) :=
    Prod.ext (by decide +kernel) rfl
  have hworking : flaggedStore.flags.Working := ⟨fun _ _ => rfl, fun _ _ => rfl⟩
  have hgrown : flaggedStore.grown.flags = flaggedStore.flags :=
    (flags_of_write hfirst).trans (if_pos (by decide +kernel))
  have hstill : flaggedStore.grown.flags.Working := hgrown ▸ hworking
  obtain ⟨hbits, -, -, -, -, hsets⟩ := write_keeps_flags
    (.single ⟨_, _, _, _, hfirst, hworking.steady _⟩) hsecond (hstill.steady _)
  have hasked := (hsets (by decide +kernel) (hstill.readable _) (by decide)).1 (hstill.changeable _)
  refine ⟨hbits, ?_⟩
  rw [hasked, hgrown]
  decide

end

end VariableStore

end NextBoot.Firmware
