import NextBoot.Firmware.Promotion
import NextBoot.Proofs.Firmware.VariableFiles

/-! The inode flags decide nothing. Two stores with the same files answer every run of requests alike
and keep the same files, whatever becomes of the flags of either: what is answered and what is stored
follows from the files and from whether they may be changed. -/
namespace NextBoot.Firmware

/-! ### What can be asked of a store -/

inductive Request where
  | read (scope : Guid) (name : String)
  | write (scope : Guid) (name : String) (attributes : Attributes) (value : Bytes)
  | delete (scope : Guid) (name : String)
  | list (scope : Guid)
  | secureBoot
  | bootEntries
  | writeOrder (order : BootOrder)
  | promote (description : String)

inductive Reply where
  | value (result : Except StoreError (Bytes × Attributes))
  | done (result : Except StoreError Unit)
  | names (result : Except StoreError (List String))
  | secureBoot (result : Except StoreError SecureBoot)
  | entries (result : Except BootError (List (UInt16 × LoadOption)))
  | order (result : Except BootError BootOrder)

def VariableStore.reply (s : VariableStore) : Request → Reply × VariableStore
  | .read scope name => (.value (s.read scope name), s)
  | .write scope name attributes value =>
    (s.write scope name attributes value).value.map .done id
  | .delete scope name => (s.delete scope name).value.map .done id
  | .list scope => (.names (s.list scope), s)
  | .secureBoot => (.secureBoot s.secureBoot, s)
  | .bootEntries => (.entries (bootEntries s).value, s)
  | .writeOrder order => (order.write s).value.map .done id
  | .promote description => (promote s description).value.map .order id

/-- What each request is answered, and the files after it. -/
def VariableStore.trace (s : VariableStore) : List Request → List (Reply × Directory)
  | [] => []
  | request :: rest =>
    let (reply, next) := s.reply request
    (reply, next.directory) :: next.trace rest

/-! ### Changes without the flags -/

namespace VariableStore

/-- What a change is answered, and the files after it, where it is refused or comes to an outcome. -/
def changed (s : VariableStore) (refusal : Errno → StoreError)
    (outcome : Except Errno (Except StoreError Unit × Directory)) :
    Except StoreError Unit × Directory :=
  if s.writable then
    match outcome with
    | .error e => (.error (refusal e), s.directory)
    | .ok result => result
  else (.error .readOnly, s.directory)

/-- What becomes of writing a record, by the files and the call alone. -/
def writeOutcome (d : Directory) (w : WriteCalls) (name : String) (file record : Bytes) :
    Except Errno (Except StoreError Unit × Directory) :=
  (d.create file).map fun created =>
    (StoreError.ofAnswer name (w.call file record).1,
      created.insert file (.file (w.call file record).1.taken))

/-- What becomes of removing a file, by the files alone. -/
def removeOutcome (d : Directory) (file : Bytes) :
    Except Errno (Except StoreError Unit × Directory) :=
  (d.removeFile file).map fun rest => (.ok (), rest)

theorem write_eq_changed (s : VariableStore) (scope : Guid) (name : String)
    (attributes : Attributes) (value : Bytes) :
    (s.write scope name attributes value).value.map id directory =
      s.changed (.ofErrno .writing name) (writeOutcome s.directory s.writes name
        (variableFile scope name) (variableContent attributes.granted value)) := by
  cases hw : s.writable with
  | false =>
    simp [changed, hw, write_of_readOnly hw]
  | true =>
    cases hd : s.directory.create (variableFile scope name) with
    | error e =>
      obtain ⟨hanswer, hfiles⟩ := write_of_refused attributes value hw hd
      simp [changed, writeOutcome, hw, hd, Prod.map, hanswer, hfiles, Except.map]
    | ok created =>
      obtain ⟨hanswer, hfiles⟩ := write_of_created attributes value hw hd
      obtain ⟨-, -, rfl⟩ := create_eq_ok_iff.mp hd
      simp [changed, writeOutcome, hw, hd, Prod.map, hanswer, hfiles, Except.map,
        Directory.insert_insert]

theorem delete_eq_changed (s : VariableStore) (scope : Guid) (name : String) :
    (s.delete scope name).value.map id directory =
      s.changed (.ofErrno .deleting name)
        (removeOutcome s.directory (variableFile scope name)) := by
  cases hw : s.writable with
  | false =>
    simp [changed, hw, delete_of_readOnly hw]
  | true =>
    cases hd : s.directory.removeFile (variableFile scope name) with
    | error e =>
      obtain ⟨hanswer, hfiles⟩ := delete_of_refused hw hd
      simp [changed, removeOutcome, hw, hd, Prod.map, hanswer, hfiles, Except.map]
    | ok d =>
      obtain ⟨hanswer, hfiles⟩ := delete_of_taken hw hd
      simp [changed, removeOutcome, hw, hd, Prod.map, hanswer, hfiles, Except.map]

end VariableStore

/-- Two stores with the same order and the same entries promote alike, and stay related in whatever
way writing an order keeps. -/
theorem promote_related (related : VariableStore → VariableStore → Prop) {s t : VariableStore}
    (hstores : related s t) (horder : BootOrder.read s = BootOrder.read t)
    (hentries : (bootEntries s).value = (bootEntries t).value)
    (hwrite : ∀ new : BootOrder, (new.write s).value.1 = (new.write t).value.1 ∧
      related (new.write s).value.2 (new.write t).value.2) (description : String) :
    (promote s description).value.1 = (promote t description).value.1 ∧
      related (promote s description).value.2 (promote t description).value.2 := by
  unfold promote
  rw [horder]
  cases BootOrder.read t with
  | error e => exact ⟨rfl, hstores⟩
  | ok current =>
    simp only [Logged.value_bind]
    rw [hentries]
    cases (bootEntries t).value with
    | error e => exact ⟨rfl, hstores⟩
    | ok entries =>
      dsimp only
      cases matching entries description with
      | nil => exact ⟨rfl, hstores⟩
      | cons index others =>
        obtain ⟨hanswer, hafter⟩ := hwrite (current.promoted index (index :: others))
        simp only [Logged.value_bind]
        generalize ((current.promoted index (index :: others)).write s).value = x at hanswer hafter ⊢
        generalize ((current.promoted index (index :: others)).write t).value = y at hanswer hafter ⊢
        obtain ⟨result, after⟩ := x
        obtain ⟨result', after'⟩ := y
        obtain rfl : result = result' := hanswer
        cases result with
        | error e => exact ⟨rfl, hafter⟩
        | ok u => exact ⟨rfl, hafter⟩

/-! ### Two stores with the same files -/

/-- Calls to write to the files are answered alike too. -/
structure SameFiles (s t : VariableStore) : Prop where
  directory : s.directory = t.directory
  writable : s.writable = t.writable
  writes : s.writes = t.writes

/-- The same answer, with the same files behind it. -/
def SameOutcome {α : Type} (x y : α × VariableStore) : Prop := x.1 = y.1 ∧ SameFiles x.2 y.2

theorem SameOutcome.map {α β : Type} {x y : α × VariableStore} (same : SameOutcome x y) (f : α → β) :
    SameOutcome (x.map f id) (y.map f id) := ⟨congrArg f same.1, same.2⟩

namespace SameFiles

variable {s t : VariableStore}

theorem read (same : SameFiles s t) (scope : Guid) (name : String) :
    s.read scope name = t.read scope name := by
  unfold VariableStore.read
  rw [same.directory]

theorem list (same : SameFiles s t) (scope : Guid) : s.list scope = t.list scope := by
  unfold VariableStore.list
  rw [same.directory]

theorem secureBoot (same : SameFiles s t) : s.secureBoot = t.secureBoot := by
  unfold VariableStore.secureBoot
  rw [same.read, same.read]

theorem readBootEntry (same : SameFiles s t) (i : UInt16) :
    readBootEntry s i = readBootEntry t i := by
  unfold Firmware.readBootEntry readBootValue
  rw [same.read, same.read]

theorem bootEntries (same : SameFiles s t) : bootEntries s = bootEntries t := by
  have hread : Firmware.readBootEntry s = Firmware.readBootEntry t := funext same.readBootEntry
  unfold Firmware.bootEntries decodedEntries entryWarnings
  rw [same.list, hread]

theorem readOrder (same : SameFiles s t) : BootOrder.read s = BootOrder.read t := by
  unfold BootOrder.read
  rw [same.read]

theorem changed (same : SameFiles s t) (refusal : Errno → StoreError)
    (outcome : Except Errno (Except StoreError Unit × Directory)) :
    s.changed refusal outcome = t.changed refusal outcome := by
  unfold VariableStore.changed
  rw [same.directory, same.writable]

theorem write (same : SameFiles s t) (scope : Guid) (name : String) (attributes : Attributes)
    (value : Bytes) :
    SameOutcome (s.write scope name attributes value).value
      (t.write scope name attributes value).value := by
  have hs := s.write_eq_changed scope name attributes value
  have ht := t.write_eq_changed scope name attributes value
  rw [same.directory, same.writes, same.changed] at hs
  obtain ⟨hanswer, hfiles⟩ := Prod.ext_iff.mp (hs.trans ht.symm)
  refine ⟨hanswer, hfiles, ?_, ?_⟩
  · rw [VariableStore.write_writable, VariableStore.write_writable, same.writable]
  · rw [VariableStore.write_writes, VariableStore.write_writes, same.writable, same.directory,
      same.writes]

theorem delete (same : SameFiles s t) (scope : Guid) (name : String) :
    SameOutcome (s.delete scope name).value (t.delete scope name).value := by
  have hs := s.delete_eq_changed scope name
  have ht := t.delete_eq_changed scope name
  rw [same.directory, same.changed] at hs
  obtain ⟨hanswer, hfiles⟩ := Prod.ext_iff.mp (hs.trans ht.symm)
  refine ⟨hanswer, hfiles, ?_, ?_⟩
  · rw [VariableStore.delete_writable, VariableStore.delete_writable, same.writable]
  · rw [VariableStore.delete_writes, VariableStore.delete_writes, same.writes]

theorem writeOrder (same : SameFiles s t) (order : BootOrder) :
    SameOutcome (order.write s).value (order.write t).value :=
  same.write .globalVariable BootOrder.variableName BootOrder.attributes order.encode

theorem promote (same : SameFiles s t) (description : String) :
    SameOutcome (promote s description).value (promote t description).value := by
  have hentries := congrArg Logged.value same.bootEntries
  exact promote_related SameFiles same same.readOrder hentries same.writeOrder description

/-- One request: the flags of the stores take no part in its answer, nor in what it stores. -/
theorem reply (same : SameFiles s t) (request : Request) :
    SameOutcome (s.reply request) (t.reply request) := by
  cases request with
  | read scope name => exact ⟨congrArg Reply.value (same.read scope name), same⟩
  | write scope name attributes value => exact (same.write scope name attributes value).map _
  | delete scope name => exact (same.delete scope name).map _
  | list scope => exact ⟨congrArg Reply.names (same.list scope), same⟩
  | secureBoot => exact ⟨congrArg Reply.secureBoot same.secureBoot, same⟩
  | bootEntries =>
    exact ⟨congrArg Reply.entries (congrArg Logged.value same.bootEntries), same⟩
  | writeOrder order => exact (same.writeOrder order).map _
  | promote description => exact (same.promote description).map _

/-- By induction on the requests: the stores stay the same but for their flags. -/
theorem trace (same : SameFiles s t) (requests : List Request) :
    s.trace requests = t.trace requests := by
  induction requests generalizing s t with
  | nil => rfl
  | cons request rest ih =>
    obtain ⟨hreply, hnext⟩ := same.reply request
    show ((s.reply request).1, (s.reply request).2.directory) :: (s.reply request).2.trace rest =
      ((t.reply request).1, (t.reply request).2.directory) :: (t.reply request).2.trace rest
    rw [hreply, hnext.directory, ih hnext]

end SameFiles

/-- Whatever the flags are, and whatever becomes of reading, clearing and restoring them, every run
of requests is answered alike and leaves the same files after each; a change fails only where the
store is read-only, the directory refuses it, or the record is not taken whole. -/
theorem trace_eq_of_flags (directory : Directory) (writable : Bool) (writes : WriteCalls)
    (flags flags' : InodeFlags) (requests : List Request) :
    VariableStore.trace ⟨directory, writable, flags, writes⟩ requests =
      VariableStore.trace ⟨directory, writable, flags', writes⟩ requests ∧
    (∀ (s : VariableStore) scope name attributes value,
      (s.write scope name attributes value).value.map id VariableStore.directory =
        s.changed (.ofErrno .writing name) (VariableStore.writeOutcome s.directory s.writes name
          (variableFile scope name) (variableContent attributes.granted value))) ∧
    ∀ (s : VariableStore) scope name,
      (s.delete scope name).value.map id VariableStore.directory =
        s.changed (.ofErrno .deleting name)
          (VariableStore.removeOutcome s.directory (variableFile scope name)) := by
  refine ⟨?_, VariableStore.write_eq_changed, VariableStore.delete_eq_changed⟩
  have same : SameFiles ⟨directory, writable, flags, writes⟩ ⟨directory, writable, flags', writes⟩ :=
    ⟨rfl, rfl, rfl⟩
  exact same.trace requests

/-- A store whose flags can be changed once. -/
def stiffStore : VariableStore where
  directory := .ofList [(variableFile .globalVariable BootOrder.variableName, .file [7, 0, 0, 0])]
  writable := true
  flags :=
    { bits := InodeFlags.immutable
      readings := false
      changes := ⟨fun asked _ => if asked = [] then none else some .notPermitted⟩ }

/-- The immutable flag is cleared and cannot be set again. All that shows it is a message. -/
example : (BootOrder.write ⟨[1]⟩ stiffStore).log =
    [.warn .attempt "restoring immutable flag: Operation not permitted (os error 1)"] := by
  decide +kernel

end NextBoot.Firmware
