import NextBoot.Proofs.Firmware.VariableMap

/-! What a change of a variable leaves behind when it fails. A change that the directory refuses leaves
the files as they were, and a record that was not taken whole leaves what was taken of it. The immutable
flag was cleared before the change was tried and is set again only after a success, so it is lost
wherever there was something to be opened for its flags. -/
namespace NextBoot.FileName

/-- A name that passes has no slash, and then removing its file asks no more of it than opening. -/
theorem checkRemoval_of_check {name : Bytes} (passes : check name = .ok ()) :
    checkRemoval name = .ok () := by
  have hslash : slash ∉ name := by
    intro hmem
    have hfirst : (name.takeWhile (· != slash)).length < name.length := by
      refine lt_of_le_of_ne (List.takeWhile_prefix _).length_le fun hlength => ?_
      have hwhole := (List.takeWhile_prefix (· != slash)).eq_of_length hlength
      simpa using List.takeWhile_eq_self_iff.mp hwhole slash hmem
    -- So none of the branches of the check that are left lets the name pass.
    unfold check checkParts at passes
    simp only [if_pos hfirst] at passes
    grind
  rw [checkRemoval, if_neg hslash, passes]

end NextBoot.FileName

namespace NextBoot.Firmware

/-! ### Clearing the immutable flag -/

namespace InodeFlags

/-- Every reading tells the bits, and every change is made. -/
structure Working (f : InodeFlags) : Prop where
  reads : ∀ bits asked, f.readings.answer bits asked = .ok bits
  changes : ∀ before bits, f.changes.refusal? before bits = none

theorem and_not_or_and (bits mask : UInt32) : bits &&& ~~~mask ||| bits &&& mask = bits := by
  rw [← UInt32.toBitVec_inj]
  ext i hi
  simp only [UInt32.toBitVec_or, UInt32.toBitVec_and, UInt32.toBitVec_not, BitVec.getElem_or,
    BitVec.getElem_and, BitVec.getElem_not]
  cases bits.toBitVec[i] <;> cases mask.toBitVec[i] <;> rfl

theorem and_not_immutable_of_clear {bits : UInt32} (clear : bits &&& immutable = 0) :
    bits &&& ~~~immutable = bits := by
  have hsplit := and_not_or_and bits immutable
  rwa [clear, UInt32.or_zero] at hsplit

theorem clearImmutable_bits {f : InodeFlags} (working : f.Working) :
    f.clearImmutable.2.bits = f.bits &&& ~~~immutable := by
  simp only [clearImmutable, get, working.reads]
  by_cases clear : f.bits &&& immutable = 0
  · rw [if_pos clear, and_not_immutable_of_clear clear]
  · rw [if_neg clear]
    simp only [set, working.changes]

end InodeFlags

/-! ### What a change asks of the directory -/

namespace Directory

variable {d : Directory} {file : Bytes}

theorem openNode_eq_ok {node : Node} (opened : d.openNode file = .ok node) :
    FileName.check file = .ok () ∧ d.get? file = some node := by
  cases hname : FileName.check file with
  | error e => simp [openNode, hname] at opened
  | ok _ =>
    cases hnode : d.get? file with
    | none => simp [openNode, hname, hnode] at opened
    | some there => simpa [openNode, hname, hnode] using opened

end Directory

namespace Change

def activity : Change → Activity
  | write _ _ => .writing
  | delete => .deleting

/-- What the directory makes of a change of the variable with this file, before a record is written. -/
def begun (d : Directory) (file : Bytes) : Change → Except Errno Directory
  | write _ _ => d.create file
  | delete => d.removeFile file

variable {d : Directory} {file : Bytes}

theorem begun_of_directory (c : Change) (opened : d.openNode file = .ok .directory) :
    c.begun d file = .error .isDirectory := by
  obtain ⟨hname, hnode⟩ := Directory.openNode_eq_ok opened
  cases c with
  | write attributes value => exact VariableStore.create_of_directory hname hnode
  | delete =>
    have hremoved := VariableStore.removeFile_eq (d := d) (FileName.checkRemoval_of_check hname)
    rwa [hnode] at hremoved

theorem exists_begun_of_file (c : Change) {content : Bytes}
    (opened : d.openNode file = .ok (.file content)) : ∃ d', c.begun d file = .ok d' := by
  obtain ⟨hname, hnode⟩ := Directory.openNode_eq_ok opened
  cases c with
  | write attributes value =>
    exact ⟨_, VariableStore.create_of_file hname (by rw [hnode]; nofun)⟩
  | delete =>
    have hremoved := VariableStore.removeFile_eq (d := d) (FileName.checkRemoval_of_check hname)
    rw [hnode] at hremoved
    exact ⟨_, hremoved⟩

end Change

/-! ### Changes that fail -/

namespace VariableStore

/-- Change a variable of any name, also one whose file cannot be there. -/
def change (s : VariableStore) (scope : Guid) (name : String) :
    Change → Except StoreError Unit × VariableStore
  | .write attributes value => (s.write scope name attributes value).value
  | .delete => (s.delete scope name).value

section
variable {s : VariableStore} {scope : Guid} {name : String} {c : Change}

theorem change_of_error (hw : s.writable = true) {e : Errno}
    (h : c.begun s.directory (variableFile scope name) = .error e) :
    s.change scope name c = (.error (.ofErrno c.activity name e),
      (s.clearImmutable (variableFile scope name)).2) := by
  cases c with
  | write attributes value => exact write_of_error hw h
  | delete => exact delete_of_error hw h

/-- Flags are cleared of whatever opens, a directory as well. -/
theorem clearImmutable_of_opened {file : Bytes} {node : Node}
    (opened : s.directory.openNode file = .ok node) :
    s.clearImmutable file =
      (s.flags.clearImmutable.1, { s with flags := s.flags.clearImmutable.2 }) := by
  simp only [clearImmutable, opened]

theorem clearImmutable_of_unopened {file : Bytes} {e : Errno}
    (unopened : s.directory.openNode file = .error e) : (s.clearImmutable file).2 = s := by
  unfold clearImmutable
  split
  · rfl
  · rfl
  · next opened =>
    rw [unopened] at opened
    cases opened

theorem bits_clearImmutable (working : s.flags.Working) (file : Bytes) :
    (s.clearImmutable file).2.flags.bits =
      if (s.directory.openNode file).isOk then s.flags.bits &&& ~~~InodeFlags.immutable
      else s.flags.bits := by
  cases hopened : s.directory.openNode file with
  | error e =>
    rw [clearImmutable_of_unopened hopened]
    rfl
  | ok node =>
    rw [clearImmutable_of_opened hopened]
    exact InodeFlags.clearImmutable_bits working

/-- What has the name of a directory cannot be changed, but its flags can. -/
theorem change_of_directory (hw : s.writable = true)
    (opened : s.directory.openNode (variableFile scope name) = .ok .directory) :
    (s.change scope name c).1 = .error (.io c.activity name (.os .isDirectory)) ∧
      (s.change scope name c).2.flags = s.flags.clearImmutable.2 := by
  rw [change_of_error hw (c.begun_of_directory opened), clearImmutable_of_opened opened]
  exact ⟨rfl, rfl⟩

/-- A change that begins and then fails is a write whose call did not take the whole record. The flags
are as they were when the call was made. -/
theorem change_of_begun (hw : s.writable = true) {d : Directory}
    (begun : c.begun s.directory (variableFile scope name) = .ok d) {e : StoreError}
    (failed : (s.change scope name c).1 = .error e) :
    ∃ attributes value left, c = .write attributes value ∧
      CutShort name (s.writes.call (variableFile scope name)
        (variableContent attributes.granted value)).1 e left ∧
      (s.change scope name c).2.directory =
        s.directory.insert (variableFile scope name) (.file left) ∧
      (s.change scope name c).2.flags = (s.clearImmutable (variableFile scope name)).2.flags := by
  cases c with
  | delete =>
    have hdone : (s.change scope name .delete).1 = .ok () := (delete_of_taken hw begun).1
    rw [hdone] at failed
    cases failed
  | write attributes value =>
    obtain ⟨hname, hnode, -⟩ := create_eq_ok_iff.mp begun
    obtain ⟨left, cut, directory⟩ := cutShort_of_write hw hname hnode failed
    refine ⟨attributes, value, left, rfl, cut, directory, ?_⟩
    have hanswer : StoreError.ofAnswer name (s.writes.call (variableFile scope name)
        (variableContent attributes.granted value)).1 = .error e :=
      (write_of_created attributes value hw begun).1.symm.trans failed
    have hwrite : s.change scope name (.write attributes value) = _ := write_eq_of_created hw begun
    rw [hwrite]
    simp only [hanswer]
    rfl

/-- A change fails as the directory refuses it, and then has changed no file; or it is a write whose
call did not take the whole record, and then what was taken is all that its file holds. With flags that
can be read and set, the immutable flag is gone afterwards wherever something had the name of the
variable's file, and the flags are as they were where nothing had. -/
theorem change_failed (hw : s.writable = true) (working : s.flags.Working) {e : StoreError}
    (failed : (s.change scope name c).1 = .error e) :
    ((∃ cause, c.begun s.directory (variableFile scope name) = .error cause ∧
        e = .ofErrno c.activity name cause ∧
        (∀ content, s.directory.openNode (variableFile scope name) ≠ .ok (.file content)) ∧
        (s.change scope name c).2.directory = s.directory) ∨
      ∃ attributes value left, c = .write attributes value ∧
        CutShort name (s.writes.call (variableFile scope name)
          (variableContent attributes.granted value)).1 e left ∧
        (s.change scope name c).2.directory =
          s.directory.insert (variableFile scope name) (.file left)) ∧
    (s.change scope name c).2.flags.bits =
      if (s.directory.openNode (variableFile scope name)).isOk
      then s.flags.bits &&& ~~~InodeFlags.immutable else s.flags.bits := by
  rw [← bits_clearImmutable working]
  cases hbegun : c.begun s.directory (variableFile scope name) with
  | ok d =>
    obtain ⟨attributes, value, left, hc, cut, directory, flags⟩ := change_of_begun hw hbegun failed
    exact ⟨.inr ⟨attributes, value, left, hc, cut, directory⟩, congrArg InodeFlags.bits flags⟩
  | error cause =>
    have hchange := change_of_error hw hbegun
    rw [hchange] at failed ⊢
    refine ⟨.inl ⟨cause, rfl, (Except.error.inj failed).symm, ?_, s.clearImmutable_directory _⟩, rfl⟩
    intro content hopened
    obtain ⟨d', hok⟩ := c.exists_begun_of_file hopened
    rw [hok] at hbegun
    cases hbegun

/-- Under the name of one variable's file there is a directory, and all files are immutable. -/
def sealedStore : VariableStore where
  directory := .ofList [(variableFile .globalVariable "BootOrder", .directory)]
  writable := true
  flags := ⟨InodeFlags.immutable, false, false, 0, []⟩

theorem sealedStore_working : sealedStore.flags.Working := ⟨fun _ _ => rfl, fun _ _ => rfl⟩

/-- A record of six bytes is in the file, and there is room for five. -/
def crampedStore : VariableStore where
  directory := .ofList [(variableFile .globalVariable "BootOrder", .file [7, 0, 0, 0, 9, 0])]
  writable := true
  flags := ⟨InodeFlags.immutable, false, false, 0, []⟩
  writes := { answer := fun _ _ record => .ok (Fin.ofNat (record.length + 1) 5) }

/-- A variable that is not there cannot be deleted and keeps its store as it was. One that has become a
directory loses the flag, and so does one that is written in part, which is left so. -/
theorem change_failed_sealedStore :
    ((sealedStore.change .globalVariable "BootNext" .delete).1 = .error (.notFound "BootNext") ∧
      (sealedStore.change .globalVariable "BootNext" .delete).2.flags.bits =
        InodeFlags.immutable) ∧
    ((sealedStore.change .globalVariable "BootOrder" .delete).1 =
      .error (.io .deleting "BootOrder" (.os .isDirectory)) ∧
      (sealedStore.change .globalVariable "BootOrder" .delete).2.flags.bits = 0) ∧
    (crampedStore.change .globalVariable "BootOrder" (.write ⟨7⟩ [1, 0])).1 =
      .error (.io .writing "BootOrder" (.shortWrite 5 6)) ∧
      (crampedStore.change .globalVariable "BootOrder" (.write ⟨7⟩ [1, 0])).2.flags.bits = 0 ∧
      (crampedStore.change .globalVariable "BootOrder" (.write ⟨7⟩ [1, 0])).2.directory.get?
        (variableFile .globalVariable "BootOrder") = some (.file [7, 0, 0, 0, 1]) := by
  have hnext : (sealedStore.change .globalVariable "BootNext" .delete).1 =
      .error (.notFound "BootNext") := by decide +kernel
  have horder : (sealedStore.change .globalVariable "BootOrder" .delete).1 =
      .error (.io .deleting "BootOrder" (.os .isDirectory)) := by decide +kernel
  have hshort : (crampedStore.change .globalVariable "BootOrder" (.write ⟨7⟩ [1, 0])).1 =
      .error (.io .writing "BootOrder" (.shortWrite 5 6)) := by decide +kernel
  have working : crampedStore.flags.Working := ⟨fun _ _ => rfl, fun _ _ => rfl⟩
  obtain ⟨-, hkept⟩ := change_failed rfl sealedStore_working hnext
  obtain ⟨-, hlost⟩ := change_failed rfl sealedStore_working horder
  obtain ⟨hleft, hcleared⟩ := change_failed rfl working hshort
  refine ⟨⟨hnext, ?_⟩, ⟨horder, ?_⟩, hshort, ?_, ?_⟩
  · rw [hkept]
    decide +kernel
  · rw [hlost]
    decide +kernel
  · rw [hcleared]
    decide +kernel
  · rcases hleft with ⟨cause, -, -, hfile, -⟩ | ⟨attributes, value, left, hc, cut, directory⟩
    · exact absurd (by decide +kernel) (hfile [7, 0, 0, 0, 9, 0])
    · obtain ⟨rfl, rfl⟩ := Change.write.inj hc
      rw [directory, Directory.get?_insert, if_pos rfl]
      cases cut with
      | short count less => rfl

/-- Neither a write nor a deletion that fails sets the flag again that it cleared. -/
theorem change_unseals_sealedStore :
    sealedStore.flags.Working ∧ sealedStore.writable = true ∧
      sealedStore.flags.bits = InodeFlags.immutable ∧
      (sealedStore.change .globalVariable "BootOrder" (.write ⟨7⟩ [1, 0])).1 =
        .error (.io .writing "BootOrder" (.os .isDirectory)) ∧
      (sealedStore.change .globalVariable "BootOrder" (.write ⟨7⟩ [1, 0])).2.flags.bits = 0 ∧
      (sealedStore.change .globalVariable "BootOrder" .delete).1 =
        .error (.io .deleting "BootOrder" (.os .isDirectory)) ∧
      (sealedStore.change .globalVariable "BootOrder" .delete).2.flags.bits = 0 := by
  have hopened : sealedStore.directory.openNode (variableFile .globalVariable "BootOrder") =
      .ok .directory := by decide +kernel
  have hcleared : sealedStore.flags.clearImmutable.2.bits = 0 := rfl
  have hrefused (c : Change) := change_of_directory (c := c) (s := sealedStore) rfl hopened
  obtain ⟨hwrite, hwritten⟩ := hrefused (.write ⟨7⟩ [1, 0])
  obtain ⟨hdelete, hdeleted⟩ := hrefused .delete
  refine ⟨sealedStore_working, rfl, rfl, hwrite, ?_, hdelete, ?_⟩
  · rw [hwritten, hcleared]
  · rw [hdeleted, hcleared]

end

end VariableStore

end NextBoot.Firmware
