import NextBoot.Firmware.VariableStore
import NextBoot.Proofs.Outcome

/-! What the operations on a variable answer, and what they do to the files of the store. -/
namespace NextBoot.Firmware

/-- The bytes of a variable's file. -/
def variableContent (attributes : Attributes) (value : Bytes) : Bytes :=
  Bytes.ofWord32 attributes.bits ++ value

/-! ### Calls that write a record -/

namespace WriteCalls

/-- The record is taken whole, if the next call is to write it to this file. -/
def Takes (w : WriteCalls) (file record : Bytes) : Prop :=
  (w.call file record).1 = .ok (Fin.last record.length)

/-- Every record is taken whole. -/
def TakesWhole (w : WriteCalls) : Prop :=
  ∀ made file record, w.answer made file record = .ok (Fin.last record.length)

theorem TakesWhole.takes {w : WriteCalls} (whole : w.TakesWhole) (file record : Bytes) :
    w.Takes file record := whole _ _ _

theorem whole_takesWhole : whole.TakesWhole := fun _ _ _ => rfl

end WriteCalls

/-- A record that was not taken whole: what the write of the variable is answered, and what of the
record is in its file. -/
inductive CutShort (name : String) {record : Bytes} :
    WriteAnswer record → StoreError → Bytes → Prop where
  | failed (errno : Errno) : CutShort name (.error errno) (.ofErrno .writing name errno) []
  | short (count : Fin (record.length + 1)) (less : count.val < record.length) :
    CutShort name (.ok count) (.io .writing name (.shortWrite count record.length))
      (record.take count)

section Answer
variable {name : String} {record : Bytes} {answer : WriteAnswer record}

theorem ofAnswer_eq_ok_iff :
    StoreError.ofAnswer name answer = .ok () ↔ answer = .ok (Fin.last record.length) := by
  cases answer with
  | error errno => simp [StoreError.ofAnswer]
  | ok count => simp [StoreError.ofAnswer, Fin.ext_iff]

theorem taken_of_whole (h : answer = .ok (Fin.last record.length)) : answer.taken = record := by
  rw [h, WriteAnswer.taken, Fin.val_last, List.take_length]

theorem cutShort_of_ofAnswer {e : StoreError} (h : StoreError.ofAnswer name answer = .error e) :
    CutShort name answer e answer.taken := by
  cases answer with
  | error errno =>
    obtain rfl := Except.error.inj h
    exact .failed errno
  | ok count =>
    rw [StoreError.ofAnswer] at h
    split at h
    · cases h
    next hcount =>
      obtain rfl := Except.error.inj h
      exact .short count (by omega)

theorem CutShort.not_whole {e : StoreError} {left : Bytes} (cut : CutShort name answer e left) :
    answer ≠ .ok (Fin.last record.length) := by
  rintro rfl
  cases cut with
  | short count less => exact absurd less (Nat.lt_irrefl _)

end Answer

namespace VariableStore

/-! ### The immutable flag is apart from all else -/

@[simp] theorem clearImmutable_directory (s : VariableStore) (file : Bytes) :
    (s.clearImmutable file).2.directory = s.directory := by
  unfold clearImmutable
  split <;> rfl

@[simp] theorem setImmutable_directory (s : VariableStore) (file : Bytes) :
    (s.setImmutable file).2.directory = s.directory := by
  unfold setImmutable
  split <;> rfl

@[simp] theorem clearImmutable_writable (s : VariableStore) (file : Bytes) :
    (s.clearImmutable file).2.writable = s.writable := by
  unfold clearImmutable
  split <;> rfl

@[simp] theorem setImmutable_writable (s : VariableStore) (file : Bytes) :
    (s.setImmutable file).2.writable = s.writable := by
  unfold setImmutable
  split <;> rfl

@[simp] theorem clearImmutable_writes (s : VariableStore) (file : Bytes) :
    (s.clearImmutable file).2.writes = s.writes := by
  unfold clearImmutable
  split <;> rfl

@[simp] theorem setImmutable_writes (s : VariableStore) (file : Bytes) :
    (s.setImmutable file).2.writes = s.writes := by
  unfold setImmutable
  split <;> rfl

/-! ### Reading -/

/-- A file that is not too short begins with its attributes. -/
theorem exists_header_of_size_le {content : Bytes} (h : Attributes.size ≤ content.length) :
    ∃ b₀ b₁ b₂ b₃ value, content = b₀ :: b₁ :: b₂ :: b₃ :: value := by
  match content, h with
  | [], h | [_], h | [_, _], h | [_, _, _], h => simp [Attributes.size] at h
  | b₀ :: b₁ :: b₂ :: b₃ :: value, _ => exact ⟨b₀, b₁, b₂, b₃, value, rfl⟩

section Read
variable {d : Directory} {scope : Guid} {name : String}

theorem openNode_eq (hn : FileName.check (variableFile scope name) = .ok ()) :
    d.openNode (variableFile scope name) =
      match d.get? (variableFile scope name) with
      | none => .error .noEntry
      | some node => .ok node := by
  simp only [Directory.openNode, hn, Outcome.ok_bind]
  cases d.get? (variableFile scope name) <;> rfl

theorem readFrom_of_absent (hn : FileName.check (variableFile scope name) = .ok ())
    (h : d.get? (variableFile scope name) = none) : readFrom d scope name = .error (.notFound name) := by
  have ho := openNode_eq (d := d) hn
  rw [h] at ho
  simp [readFrom, Directory.readFile, ho, StoreError.ofErrno]

theorem readFrom_of_directory (hn : FileName.check (variableFile scope name) = .ok ())
    (h : d.get? (variableFile scope name) = some .directory) :
    readFrom d scope name = .error (.io .reading name (.os .isDirectory)) := by
  have ho := openNode_eq (d := d) hn
  rw [h] at ho
  simp only [readFrom, Directory.readFile, ho, Outcome.ok_bind]
  rfl

theorem readFrom_of_short (hn : FileName.check (variableFile scope name) = .ok ()) {content : Bytes}
    (h : d.get? (variableFile scope name) = some (.file content))
    (hs : content.length < Attributes.size) :
    readFrom d scope name = .error (.malformed name content.length) := by
  have ho := openNode_eq (d := d) hn
  rw [h] at ho
  simp only [readFrom, Directory.readFile, ho, Outcome.ok_bind]
  match content, hs with
  | [], _ => rfl
  | [_], _ => rfl
  | [_, _], _ => rfl
  | [_, _, _], _ => rfl

theorem readFrom_of_file (hn : FileName.check (variableFile scope name) = .ok ())
    {b₀ b₁ b₂ b₃ : UInt8} {value : Bytes}
    (h : d.get? (variableFile scope name) = some (.file (b₀ :: b₁ :: b₂ :: b₃ :: value))) :
    readFrom d scope name = .ok (value, ⟨Bytes.word32 b₀ b₁ b₂ b₃⟩) := by
  have ho := openNode_eq (d := d) hn
  rw [h] at ho
  simp only [readFrom, Directory.readFile, ho, Outcome.ok_bind]
  rfl

/-- A file that a variable was written to gives the variable back. -/
theorem readFrom_variableContent (hn : FileName.check (variableFile scope name) = .ok ())
    {attributes : Attributes} {value : Bytes}
    (h : d.get? (variableFile scope name) = some (.file (variableContent attributes value))) :
    readFrom d scope name = .ok (value, attributes) := by
  simp only [variableContent, Bytes.ofWord32, List.cons_append, List.nil_append] at h
  rw [readFrom_of_file hn h, Bytes.word32_ofWord32]

end Read

/-! ### Writing -/

section Create
variable {d created : Directory} {file : Bytes}

theorem create_of_file (hn : FileName.check file = .ok ()) (h : d.get? file ≠ some .directory) :
    d.create file = .ok (d.insert file (.file [])) := by
  simp only [Directory.create, hn, Outcome.ok_bind, if_neg h]
  rfl

theorem create_of_directory (hn : FileName.check file = .ok ())
    (h : d.get? file = some .directory) : d.create file = .error .isDirectory := by
  simp only [Directory.create, hn, Outcome.ok_bind, if_pos h]
  rfl

/-- What can be created has a name that passes, and no directory bears it. -/
theorem create_eq_ok_iff : d.create file = .ok created ↔
    FileName.check file = .ok () ∧ d.get? file ≠ some .directory ∧
      created = d.insert file (.file []) := by
  constructor
  · intro h
    obtain ⟨⟨⟩, hn, -⟩ := Outcome.bind_eq_ok_iff.mp h
    by_cases hd : d.get? file = some .directory
    · rw [create_of_directory hn hd] at h
      cases h
    · rw [create_of_file hn hd] at h
      exact ⟨hn, hd, (Except.ok.inj h).symm⟩
  · rintro ⟨hn, hd, rfl⟩
    exact create_of_file hn hd

end Create

/-- The store after the call that writes the record to a file that could be created. The immutable flag
has been cleared by then, and not been set again. -/
def recorded (s : VariableStore) (file record : Bytes) : VariableStore :=
  { (s.clearImmutable file).2 with
    directory := s.directory.insert file (.file (s.writes.call file record).1.taken)
    writes := (s.writes.call file record).2 }

section Write
variable {s : VariableStore} {scope : Guid} {name : String} {attributes : Attributes} {value : Bytes}

theorem write_of_readOnly (h : s.writable = false) :
    (s.write scope name attributes value).value = (.error .readOnly, s) := by
  simp [write, h]

/-- A write whose file cannot be created has got no further than to the flags. -/
theorem write_of_error (hw : s.writable = true) {e : Errno}
    (h : s.directory.create (variableFile scope name) = .error e) :
    (s.write scope name attributes value).value =
      (.error (.ofErrno .writing name e), (s.clearImmutable (variableFile scope name)).2) := by
  have hdirectory := s.clearImmutable_directory (variableFile scope name)
  generalize hc : s.clearImmutable (variableFile scope name) = c at hdirectory
  obtain ⟨cleared, opened⟩ := c
  have hopened : opened.directory.create (variableFile scope name) = .error e := by
    rw [hdirectory]
    exact h
  simp only [write, hw, if_true, hc, Logged.value_bind, writeRecord, hopened, Logged.value_pure]

variable (attributes value) in
/-- A write whose file cannot be created leaves all files alone. -/
theorem write_of_refused (hw : s.writable = true) {e : Errno}
    (h : s.directory.create (variableFile scope name) = .error e) :
    (s.write scope name attributes value).value.1 = .error (.ofErrno .writing name e) ∧
      (s.write scope name attributes value).value.2.directory = s.directory := by
  rw [write_of_error hw h]
  exact ⟨rfl, s.clearImmutable_directory _⟩

/-- Otherwise the call decides. Only if it takes the whole record, the immutable flag is set again
where it was cleared. -/
theorem write_eq_of_created (hw : s.writable = true) {created : Directory}
    (h : s.directory.create (variableFile scope name) = .ok created) :
    (s.write scope name attributes value).value =
      let file := variableFile scope name
      let record := variableContent attributes.granted value
      let left := s.recorded file record
      match StoreError.ofAnswer name (s.writes.call file record).1 with
      | .error e => (.error e, left)
      | .ok () => (.ok (), match (s.clearImmutable file).1 with
        | .ok true => (left.setImmutable file).2
        | _ => left) := by
  obtain ⟨-, -, hcreated⟩ := create_eq_ok_iff.mp h
  have hdirectory := s.clearImmutable_directory (variableFile scope name)
  have hwrites := s.clearImmutable_writes (variableFile scope name)
  dsimp only [recorded]
  generalize hc : s.clearImmutable (variableFile scope name) = c at hdirectory hwrites ⊢
  obtain ⟨cleared, opened⟩ := c
  dsimp only at hdirectory hwrites
  have hopened : opened.directory.create (variableFile scope name) = .ok created := by
    rw [hdirectory]
    exact h
  simp only [write, hw, if_true, hc, Logged.value_bind, writeRecord, hopened, hwrites, hcreated,
    Directory.insert_insert, variableContent]
  cases StoreError.ofAnswer name (s.writes.call (variableFile scope name)
      (Bytes.ofWord32 attributes.granted.bits ++ value)).1 with
  | error e => rfl
  | ok u => cases cleared with
    | error e => rfl
    | ok was => cases was <;> rfl

variable (attributes value) in
/-- Whatever becomes of the immutable flag, the call gives the answer and the content of the file. -/
theorem write_of_created (hw : s.writable = true) {created : Directory}
    (h : s.directory.create (variableFile scope name) = .ok created) :
    (s.write scope name attributes value).value.1 = StoreError.ofAnswer name
        (s.writes.call (variableFile scope name) (variableContent attributes.granted value)).1 ∧
      (s.write scope name attributes value).value.2.directory =
        s.directory.insert (variableFile scope name) (.file (s.writes.call (variableFile scope name)
          (variableContent attributes.granted value)).1.taken) := by
  rw [write_eq_of_created hw h]
  dsimp only
  split
  next e he => exact ⟨he.symm, rfl⟩
  next he =>
    refine ⟨he.symm, ?_⟩
    dsimp only
    split
    · exact setImmutable_directory _ _
    · rfl

/-- A write that succeeds had the directory create the file and the call take the whole record. -/
theorem write_eq_ok_iff : (s.write scope name attributes value).value.1 = .ok () ↔
    s.writable = true ∧ FileName.check (variableFile scope name) = .ok () ∧
      s.directory.get? (variableFile scope name) ≠ some .directory ∧
      (s.writes.call (variableFile scope name) (variableContent attributes.granted value)).1 =
        .ok (Fin.last _) := by
  cases hw : s.writable with
  | false => simp [write_of_readOnly hw]
  | true =>
    cases hc : s.directory.create (variableFile scope name) with
    | error e =>
      rw [(write_of_refused attributes value hw hc).1]
      refine ⟨nofun, fun ⟨_, hn, hd, _⟩ => ?_⟩
      rw [create_of_file hn hd] at hc
      cases hc
    | ok created =>
      obtain ⟨hn, hd, -⟩ := create_eq_ok_iff.mp hc
      rw [(write_of_created attributes value hw hc).1, ofAnswer_eq_ok_iff]
      simp only [hn, hd, ne_eq, not_false_eq_true, true_and]

theorem directory_of_write (h : (s.write scope name attributes value).value.1 = .ok ()) :
    (s.write scope name attributes value).value.2.directory =
      s.directory.insert (variableFile scope name)
        (.file (variableContent attributes.granted value)) := by
  obtain ⟨hw, hn, hd, hwhole⟩ := write_eq_ok_iff.mp h
  rw [(write_of_created attributes value hw (create_of_file hn hd)).2, taken_of_whole hwhole]

/-- A write that fails behind the creation of its file has left what the call took. -/
theorem cutShort_of_write (hw : s.writable = true)
    (hn : FileName.check (variableFile scope name) = .ok ())
    (hd : s.directory.get? (variableFile scope name) ≠ some .directory) {e : StoreError}
    (h : (s.write scope name attributes value).value.1 = .error e) :
    ∃ left, CutShort name
        (s.writes.call (variableFile scope name) (variableContent attributes.granted value)).1 e left ∧
      (s.write scope name attributes value).value.2.directory =
        s.directory.insert (variableFile scope name) (.file left) := by
  obtain ⟨hanswer, hfiles⟩ := write_of_created attributes value hw (create_of_file hn hd)
  exact ⟨_, cutShort_of_ofAnswer (hanswer.symm.trans h), hfiles⟩

theorem write_writable (s : VariableStore) (scope : Guid) (name : String) (attributes : Attributes)
    (value : Bytes) : (s.write scope name attributes value).value.2.writable = s.writable := by
  have hc := s.clearImmutable_writable (variableFile scope name)
  cases hw : s.writable with
  | false => rw [write_of_readOnly hw, hw]
  | true =>
    rw [hw] at hc
    cases hcreate : s.directory.create (variableFile scope name) with
    | error e => rw [write_of_error hw hcreate, hc]
    | ok created =>
      rw [write_eq_of_created hw hcreate]
      dsimp only
      split
      · exact hc
      · dsimp only
        split
        · exact (setImmutable_writable _ _).trans hc
        · exact hc

/-- A single call is made, if the file can be created. -/
theorem write_writes (s : VariableStore) (scope : Guid) (name : String) (attributes : Attributes)
    (value : Bytes) : (s.write scope name attributes value).value.2.writes =
      if s.writable ∧ (s.directory.create (variableFile scope name)).isOk then
        (s.writes.call (variableFile scope name) (variableContent attributes.granted value)).2
      else s.writes := by
  cases hw : s.writable with
  | false => simp [write_of_readOnly hw]
  | true =>
    cases hcreate : s.directory.create (variableFile scope name) with
    | error e => simp [write_of_error hw hcreate, Except.isOk, Except.toBool]
    | ok created =>
      rw [write_eq_of_created hw hcreate, if_pos ⟨rfl, rfl⟩]
      dsimp only
      split
      · rfl
      · dsimp only
        split
        · exact setImmutable_writes _ _
        · rfl

theorem write_takesWhole {s : VariableStore} (whole : s.writes.TakesWhole) (scope : Guid)
    (name : String) (attributes : Attributes) (value : Bytes) :
    (s.write scope name attributes value).value.2.writes.TakesWhole := by
  rw [write_writes]
  split
  · exact whole
  · exact whole

end Write

/-! ### Deleting -/

section Delete
variable {s : VariableStore} {scope : Guid} {name : String}

theorem delete_of_readOnly (h : s.writable = false) :
    (s.delete scope name).value = (.error .readOnly, s) := by
  simp [delete, h]

/-- A deletion that the directory refuses has got no further than to the flags. -/
theorem delete_of_error (hw : s.writable = true) {e : Errno}
    (h : s.directory.removeFile (variableFile scope name) = .error e) :
    (s.delete scope name).value =
      (.error (.ofErrno .deleting name e), (s.clearImmutable (variableFile scope name)).2) := by
  simp only [delete, hw, if_true, h]
  rfl

/-- A deletion that the directory refuses leaves its files alone. -/
theorem delete_of_refused (hw : s.writable = true) {e : Errno}
    (h : s.directory.removeFile (variableFile scope name) = .error e) :
    (s.delete scope name).value.1 = .error (.ofErrno .deleting name e) ∧
      (s.delete scope name).value.2.directory = s.directory := by
  rw [delete_of_error hw h]
  exact ⟨rfl, s.clearImmutable_directory _⟩

theorem delete_of_taken (hw : s.writable = true) {d : Directory}
    (h : s.directory.removeFile (variableFile scope name) = .ok d) :
    (s.delete scope name).value.1 = .ok () ∧ (s.delete scope name).value.2.directory = d := by
  simp only [delete, hw, if_true, h]
  exact ⟨rfl, rfl⟩

theorem directory_of_delete (h : (s.delete scope name).value.1 = .ok ()) :
    (s.delete scope name).value.2.directory = s.directory.erase (variableFile scope name) := by
  cases hw : s.writable with
  | false =>
    rw [delete_of_readOnly hw] at h
    cases h
  | true =>
    cases hd : s.directory.removeFile (variableFile scope name) with
    | error e =>
      rw [delete_of_error hw hd] at h
      cases h
    | ok d =>
      rw [(delete_of_taken hw hd).2]
      obtain ⟨-, -, hd⟩ := Outcome.bind_eq_ok_iff.mp hd
      split at hd
      · cases hd
      · cases hd
      · exact (Except.ok.inj hd).symm

theorem delete_writable (s : VariableStore) (scope : Guid) (name : String) :
    (s.delete scope name).value.2.writable = s.writable := by
  have hc := s.clearImmutable_writable (variableFile scope name)
  cases hw : s.writable with
  | false => rw [delete_of_readOnly hw, hw]
  | true =>
    rw [hw] at hc
    simp only [delete, hw, if_true, Logged.value_bind]
    split <;> exact hc

theorem delete_writes (s : VariableStore) (scope : Guid) (name : String) :
    (s.delete scope name).value.2.writes = s.writes := by
  have hc := s.clearImmutable_writes (variableFile scope name)
  cases hw : s.writable with
  | false => rw [delete_of_readOnly hw]
  | true =>
    simp only [delete, hw, if_true, Logged.value_bind]
    split <;> exact hc

end Delete

theorem removeFile_eq {d : Directory} {name : Bytes} (hn : FileName.checkRemoval name = .ok ()) :
    d.removeFile name = match d.get? name with
      | none => .error .noEntry
      | some .directory => .error .isDirectory
      | some (.file _) => .ok (d.erase name) := by
  simp only [Directory.removeFile, hn, Outcome.ok_bind]
  rfl

end VariableStore

end NextBoot.Firmware
