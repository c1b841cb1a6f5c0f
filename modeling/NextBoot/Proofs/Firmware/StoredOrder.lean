import Mathlib.Control.Monad.Basic
import NextBoot.Firmware.BootOrder
import NextBoot.Proofs.Firmware.VariableFiles

/-! The boot order as the bytes of its variable, and as a file of the store. -/
namespace NextBoot.Firmware.BootOrder

theorem decodeWords?_flatMap (indices : List UInt16) :
    decodeWords? (indices.flatMap Bytes.ofWord16) = some indices := by
  induction indices with
  | nil => rfl
  | cons i rest ih =>
    rw [List.flatMap_cons, Bytes.ofWord16, List.cons_append, List.cons_append, List.nil_append,
      decodeWords?, ih, Bytes.word16_ofWord16]
    rfl

theorem decodeWords?_eq_none_iff (raw : Bytes) : decodeWords? raw = none ↔ raw.length % 2 = 1 := by
  induction raw using decodeWords?.induct with
  | case1 => simp [decodeWords?]
  | case2 => simp [decodeWords?]
  | case3 b₀ b₁ rest ih =>
    rw [decodeWords?, Option.map_eq_none_iff, ih, List.length_cons, List.length_cons]
    omega

theorem decode_encode (order : BootOrder) : decode order.encode = .ok order := by
  simp only [decode, encode, decodeWords?_flatMap]

theorem exists_decode_eq_ok_iff (raw : Bytes) :
    (∃ order, decode raw = .ok order) ↔ raw.length % 2 = 0 := by
  have hodd := decodeWords?_eq_none_iff raw
  cases hw : decodeWords? raw with
  | none =>
    have hlen : raw.length % 2 = 1 := hodd.mp hw
    simp only [decode, hw]
    simp [hlen]
  | some indices =>
    have hlen : raw.length % 2 ≠ 1 := by
      intro h
      rw [hodd.mpr h] at hw
      cases hw
    simp only [decode, hw]
    constructor
    · intro _
      omega
    · intro _
      exact ⟨⟨indices⟩, rfl⟩

/-! ### The file of the order -/

def file : Bytes := variableFile .globalVariable variableName

theorem check_file : FileName.check file = .ok () := by decide +kernel

/-- There is no file of the order, or one with the attributes and an even number of bytes. -/
def Readable (d : Directory) : Prop :=
  d.get? file = none ∨ ∃ content, d.get? file = some (.file content) ∧
    Attributes.size ≤ content.length ∧ (content.drop Attributes.size).length % 2 = 0

section Read
variable {s : VariableStore}

theorem read_of_absent (h : s.directory.get? file = none) : read s = .ok empty := by
  have hr : s.read .globalVariable variableName = .error (.notFound variableName) :=
    VariableStore.readFrom_of_absent check_file h
  simp only [read, hr]

theorem read_of_directory (h : s.directory.get? file = some .directory) :
    read s = .error (.store (.io .reading variableName (.os .isDirectory))) := by
  have hr : s.read .globalVariable variableName =
      .error (.io .reading variableName (.os .isDirectory)) :=
    VariableStore.readFrom_of_directory check_file h
  simp only [read, hr]

theorem read_of_short {content : Bytes} (h : s.directory.get? file = some (.file content))
    (hs : content.length < Attributes.size) :
    read s = .error (.store (.malformed variableName content.length)) := by
  have hr : s.read .globalVariable variableName = .error (.malformed variableName content.length) :=
    VariableStore.readFrom_of_short check_file h hs
  simp only [read, hr]

theorem read_of_file {b₀ b₁ b₂ b₃ : UInt8} {raw : Bytes}
    (h : s.directory.get? file = some (.file (b₀ :: b₁ :: b₂ :: b₃ :: raw))) :
    read s = decode raw := by
  have hr : s.read .globalVariable variableName = .ok (raw, ⟨Bytes.word32 b₀ b₁ b₂ b₃⟩) :=
    VariableStore.readFrom_of_file check_file h
  simp only [read, hr]

theorem exists_read_eq_ok_iff : (∃ order, read s = .ok order) ↔ Readable s.directory := by
  cases hg : s.directory.get? file with
  | none => simp [read_of_absent hg, Readable, hg]
  | some node =>
    cases node with
    | directory => simp [read_of_directory hg, Readable, hg]
    | file content =>
      by_cases hs : content.length < Attributes.size
      · simp [read_of_short hg hs, Readable, hg, Nat.not_le.mpr hs]
      · obtain ⟨b₀, b₁, b₂, b₃, raw, rfl⟩ :=
          VariableStore.exists_header_of_size_le (Nat.not_lt.mp hs)
        rw [read_of_file hg, exists_decode_eq_ok_iff]
        simp [Readable, hg, Attributes.size]

/-- The file of the order is all that reading it depends on. -/
theorem read_congr {t : VariableStore} (h : s.directory.get? file = t.directory.get? file) :
    read s = read t := by
  cases hg : t.directory.get? file with
  | none => rw [read_of_absent hg, read_of_absent (h.trans hg)]
  | some node =>
    cases node with
    | directory => rw [read_of_directory hg, read_of_directory (h.trans hg)]
    | file content =>
      by_cases hs : content.length < Attributes.size
      · rw [read_of_short hg hs, read_of_short (h.trans hg) hs]
      · obtain ⟨b₀, b₁, b₂, b₃, raw, rfl⟩ :=
          VariableStore.exists_header_of_size_le (Nat.not_lt.mp hs)
        rw [read_of_file hg, read_of_file (h.trans hg)]

/-- Reading the order never says that an entry is missing. -/
theorem read_ne_entryNotFound (description : String) :
    read s ≠ .error (.entryNotFound description) := by
  unfold read
  split
  · unfold decode
    split <;> simp
  · simp
  · simp

end Read

/-- All that the file of an order holds. -/
def record (order : BootOrder) : Bytes := variableContent attributes.granted order.encode

section Write
variable {s t : VariableStore}

theorem write_of_directory (hw : s.writable = true) (h : s.directory.get? file = some .directory)
    (order : BootOrder) :
    (order.write s).value.1 = .error (.io .writing variableName (.os .isDirectory)) ∧
      (order.write s).value.2.directory = s.directory :=
  VariableStore.write_of_refused _ _ hw (VariableStore.create_of_directory check_file h)

/-- Writing an order where there is no directory in its place replaces its file by what the call takes
of the record. -/
theorem write_of_file (hw : s.writable = true) (h : s.directory.get? file ≠ some .directory)
    (order : BootOrder) :
    (order.write s).value.1 =
        StoreError.ofAnswer variableName (s.writes.call file order.record).1 ∧
      (order.write s).value.2.directory =
        s.directory.insert file (.file (s.writes.call file order.record).1.taken) :=
  VariableStore.write_of_created _ _ hw (VariableStore.create_of_file check_file h)

/-- What writing an order answers and stores depends on no other file. -/
theorem write_congr (writable : s.writable = t.writable) (writes : s.writes = t.writes)
    (h : s.directory.get? file = t.directory.get? file) (new : BootOrder) :
    (new.write s).value.1 = (new.write t).value.1 ∧
      (new.write s).value.2.directory.get? file = (new.write t).value.2.directory.get? file := by
  cases ht : t.writable with
  | false =>
    rw [write, write, VariableStore.write_of_readOnly ht,
      VariableStore.write_of_readOnly (writable.trans ht)]
    exact ⟨rfl, h⟩
  | true =>
    have hs : s.writable = true := writable.trans ht
    by_cases hdir : t.directory.get? file = some .directory
    · obtain ⟨hanswer, hfiles⟩ := write_of_directory ht hdir new
      obtain ⟨hanswer', hfiles'⟩ := write_of_directory hs (h.trans hdir) new
      refine ⟨hanswer'.trans hanswer.symm, ?_⟩
      rw [hfiles, hfiles', h]
    · obtain ⟨hanswer, hfiles⟩ := write_of_file ht hdir new
      obtain ⟨hanswer', hfiles'⟩ := write_of_file hs (h ▸ hdir) new
      rw [writes] at hanswer' hfiles'
      refine ⟨hanswer'.trans hanswer.symm, ?_⟩
      rw [hfiles, hfiles', Directory.get?_insert, Directory.get?_insert, if_pos rfl, if_pos rfl]

end Write

end NextBoot.Firmware.BootOrder
