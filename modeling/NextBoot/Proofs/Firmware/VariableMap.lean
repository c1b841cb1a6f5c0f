import Mathlib.Data.Nat.Bitwise
import NextBoot.Proofs.Firmware.VariableKeys

/-! A store over a whole run of operations. It is a map from variables, whatever was in its directory
before. -/
namespace NextBoot.Firmware

inductive Change where
  | write (attributes : Attributes) (value : Bytes)
  | delete
  deriving DecidableEq

inductive Operation where
  | read
  | change (c : Change)

inductive Answer where
  | value (result : Except StoreError (Bytes × Attributes))
  | done (result : Except StoreError Unit)
  deriving DecidableEq

def Answer.error? : Answer → Option StoreError
  | value (.error e) | done (.error e) => some e
  | _ => none

/-- An operation on a variable, and what it answered. -/
structure Exchange where
  target : Variable
  operation : Operation
  answer : Answer

/-- The change of the variable that the operation was, if it succeeded. -/
def Exchange.changeOf? (v : Variable) : Exchange → Option Change
  | ⟨w, .change c, .done (.ok ())⟩ => if w = v then some c else none
  | _ => none

/-- The last change of the variable that succeeded. -/
def lastChange? (v : Variable) (exchanges : List Exchange) : Option Change :=
  (exchanges.filterMap (Exchange.changeOf? v)).getLast?

theorem lastChange?_cons (v : Variable) (e : Exchange) (rest : List Exchange) :
    lastChange? v (e :: rest) = (lastChange? v rest).or (e.changeOf? v) := by
  rw [lastChange?, lastChange?]
  cases hc : e.changeOf? v with
  | none => rw [List.filterMap_cons_none hc, Option.or_none]
  | some c =>
    rw [List.filterMap_cons_some hc, List.getLast?_cons]
    cases (rest.filterMap (Exchange.changeOf? v)).getLast? <;> rfl

/-- One operation after the other, on anything that answers them. -/
def serve {σ : Type} (perform : σ → Variable → Operation → Answer × σ) (s : σ) :
    List (Variable × Operation) → List Exchange × σ
  | [] => ([], s)
  | (v, op) :: rest =>
    let (answer, next) := perform s v op
    let (exchanges, last) := serve perform next rest
    (⟨v, op, answer⟩ :: exchanges, last)

/-! ### The map -/

/-- A map of variables: what is under the name of each one's file, and the calls that write to it. -/
structure Contents where
  under : Variable → Option Node
  writes : WriteCalls

/-- What becomes of a change that is not refused. -/
structure ChangeOutcome where
  result : Except StoreError Unit
  node? : Option Node
  writes : WriteCalls

namespace Change

/-- Why a variable cannot be changed. -/
def refusal? (v : Variable) : Change → Option Node → Option StoreError
  | write _ _, some .directory => some (.io .writing v.name (.os .isDirectory))
  | delete, none => some (.notFound v.name)
  | delete, some .directory => some (.io .deleting v.name (.os .isDirectory))
  | _, _ => none

/-- A write makes one call, and the file has what that took. -/
def outcome (v : Variable) (w : WriteCalls) : Change → ChangeOutcome
  | write attributes value =>
    let (answer, writes) := w.call v.file (variableContent attributes.granted value)
    ⟨StoreError.ofAnswer v.name answer, some (.file answer.taken), writes⟩
  | delete => ⟨.ok (), none, w⟩

/-- What is under the name of the file after a change that succeeded. -/
def node? : Change → Option Node
  | write attributes value => some (.file (variableContent attributes.granted value))
  | delete => none

/-- The record is taken whole, if the change is to write one. -/
def Taken (v : Variable) (w : WriteCalls) : Change → Prop
  | write attributes value => w.Takes v.file (variableContent attributes.granted value)
  | delete => True

theorem outcome_of_taken {v : Variable} {w : WriteCalls} {c : Change} (taken : c.Taken v w) :
    (c.outcome v w).result = .ok () ∧ (c.outcome v w).node? = c.node? := by
  cases c with
  | write attributes value =>
    have hanswer : (w.call v.file (variableContent attributes.granted value)).1 =
        .ok (Fin.last _) := taken
    exact ⟨ofAnswer_eq_ok_iff.mpr hanswer, congrArg (some ∘ Node.file) (taken_of_whole hanswer)⟩
  | delete => exact ⟨rfl, rfl⟩

theorem refusal?_write {v : Variable} {node? : Option Node} (attributes : Attributes)
    (value : Bytes) :
    (write attributes value).refusal? v node? = none ↔ node? ≠ some .directory := by
  rcases node? with _ | _ | _ <;> simp [refusal?]

end Change

namespace Contents

def set (m : Contents) (v : Variable) (node? : Option Node) : Variable → Option Node :=
  fun w => if w = v then node? else m.under w

def perform (m : Contents) (v : Variable) : Operation → Answer × Contents
  | .read => (.value (v.readNode (m.under v)), m)
  | .change c =>
    match c.refusal? v (m.under v) with
    | some e => (.done (.error e), m)
    | none =>
      let o := c.outcome v m.writes
      (.done o.result, ⟨m.set v o.node?, o.writes⟩)

end Contents

/-! ### The store -/

namespace VariableStore

def contents (s : VariableStore) : Contents := ⟨fun v => s.directory.get? v.file, s.writes⟩

def perform (s : VariableStore) (v : Variable) : Operation → Answer × VariableStore
  | .read => (.value (s.read v.scope v.name), s)
  | .change (.write attributes value) =>
    (s.write v.scope v.name attributes value).value.map .done id
  | .change .delete => (s.delete v.scope v.name).value.map .done id

/-- How a change of a variable in a writable store ends. -/
inductive ChangeEnd (s : VariableStore) (v : Variable) (c : Change) : Answer × VariableStore → Prop
  | refused {e : StoreError} {next : VariableStore}
      (refusal : c.refusal? v (s.contents.under v) = some e) (kept : next.directory = s.directory)
      (writes : next.writes = s.writes) : ChangeEnd s v c (.done (.error e), next)
  | made {next : VariableStore} (refusal : c.refusal? v (s.contents.under v) = none)
      (changed : ∀ file, next.directory.get? file =
        if file = v.file then (c.outcome v s.writes).node? else s.directory.get? file)
      (writes : next.writes = (c.outcome v s.writes).writes) :
      ChangeEnd s v c (.done (c.outcome v s.writes).result, next)

theorem changeEnd_write {s : VariableStore} (hw : s.writable = true) (v : Variable)
    (attributes : Attributes) (value : Bytes) :
    ChangeEnd s v (.write attributes value) (s.perform v (.change (.write attributes value))) := by
  have hwrites := s.write_writes v.scope v.name attributes value
  simp only [perform, Prod.map, id_eq]
  by_cases hn : s.contents.under v = some .directory
  · have hcreate : s.directory.create v.file = _ := create_of_directory v.check_file hn
    obtain ⟨hanswer, hkept⟩ := write_of_refused attributes value hw hcreate
    rw [hanswer]
    refine .refused (by rw [hn]; rfl) hkept (hwrites.trans (if_neg ?_))
    rw [← Variable.file, hcreate]
    rintro ⟨-, ⟨⟩⟩
  · have hcreate : s.directory.create v.file = _ := create_of_file v.check_file hn
    obtain ⟨hanswer, hwritten⟩ := write_of_created attributes value hw hcreate
    rw [hanswer]
    refine .made ((Change.refusal?_write attributes value).mpr hn) (fun file => ?_)
      (hwrites.trans (if_pos ⟨hw, ?_⟩))
    · rw [hwritten, Directory.get?_insert]
      rfl
    · rw [← Variable.file, hcreate]
      rfl

theorem changeEnd_delete {s : VariableStore} (hw : s.writable = true) (v : Variable) :
    ChangeEnd s v .delete (s.perform v (.change .delete)) := by
  have hwrites := s.delete_writes v.scope v.name
  simp only [perform, Prod.map, id_eq]
  have hremove := removeFile_eq (d := s.directory) v.checkRemoval_file
  have hc : s.contents.under v = s.directory.get? v.file := rfl
  rw [← hc] at hremove
  cases hs : s.contents.under v with
  | none =>
    rw [hs] at hremove
    obtain ⟨hanswer, hkept⟩ := delete_of_refused hw hremove
    rw [hanswer]
    exact .refused (by rw [hs]; rfl) hkept hwrites
  | some node =>
    rw [hs] at hremove
    cases node with
    | directory =>
      obtain ⟨hanswer, hkept⟩ := delete_of_refused hw hremove
      rw [hanswer]
      exact .refused (by rw [hs]; rfl) hkept hwrites
    | file content =>
      obtain ⟨hanswer, hremoved⟩ := delete_of_taken hw hremove
      rw [hanswer]
      refine .made (by rw [hs]; rfl) (fun file => ?_) hwrites
      rw [hremoved, Directory.get?_erase]
      rfl

theorem changeEnd_perform {s : VariableStore} (hw : s.writable = true) (v : Variable) (c : Change) :
    ChangeEnd s v c (s.perform v (.change c)) := by
  cases c with
  | write attributes value => exact changeEnd_write hw v attributes value
  | delete => exact changeEnd_delete hw v

theorem perform_writable (s : VariableStore) (v : Variable) (op : Operation) :
    (s.perform v op).2.writable = s.writable := by
  cases op with
  | read => rfl
  | change c =>
    cases c with
    | write attributes value => exact s.write_writable v.scope v.name attributes value
    | delete => exact s.delete_writable v.scope v.name

/-- A writable store answers as the map of its contents, and becomes what the map becomes. -/
theorem perform_contents {s : VariableStore} (hw : s.writable = true) (v : Variable)
    (op : Operation) :
    (s.contents.perform v op) = ((s.perform v op).1, (s.perform v op).2.contents) := by
  cases op with
  | read => exact Prod.ext (congrArg Answer.value (v.read_eq_readNode s).symm) rfl
  | change c =>
    have hend := changeEnd_perform hw v c
    generalize s.perform v (.change c) = outcome at hend ⊢
    cases hend with
    | refused refusal kept writes =>
      simp only [Contents.perform, refusal]
      simp only [contents, kept, writes]
    | @made next refusal changed writes =>
      simp only [Contents.perform, refusal]
      have hunder : next.contents.under = s.contents.set v (c.outcome v s.writes).node? := by
        funext w
        have hw' : next.contents.under w =
            if w.file = v.file then (c.outcome v s.writes).node? else s.contents.under w :=
          changed w.file
        simp only [Contents.set, hw', Variable.file_injective.eq_iff]
      have hnext : next.contents =
          ⟨s.contents.set v (c.outcome v s.writes).node?, (c.outcome v s.writes).writes⟩ := by
        rw [← hunder, ← writes]
        rfl
      rw [hnext]
      rfl

/-- Whatever an operation on a variable answers, the other files stay as they are. -/
theorem get?_perform_of_ne {s : VariableStore} (hw : s.writable = true) {v : Variable} {file : Bytes}
    (other : file ≠ v.file) (op : Operation) :
    (s.perform v op).2.directory.get? file = s.directory.get? file := by
  cases op with
  | read => rfl
  | change c =>
    have hend := changeEnd_perform hw v c
    generalize s.perform v (.change c) = outcome at hend ⊢
    cases hend with
    | refused _ kept _ => rw [kept]
    | made _ changed _ => rw [changed, if_neg other]

/-- If the operation comes as far as a call that writes, the call takes the whole record. -/
def TakesRecord (s : VariableStore) (v : Variable) : Operation → Prop
  | .read => True
  | .change c => c.refusal? v (s.contents.under v) = none → c.Taken v s.writes

theorem get?_perform {s : VariableStore} (hw : s.writable = true) {v w : Variable} {op : Operation}
    (taken : v = w → s.TakesRecord v op) :
    (s.perform v op).2.directory.get? w.file =
      match Exchange.changeOf? w ⟨v, op, (s.perform v op).1⟩ with
      | none => s.directory.get? w.file
      | some c => c.node? := by
  cases op with
  | read => rfl
  | change c =>
    have hend := changeEnd_perform hw v c
    generalize s.perform v (.change c) = outcome at hend ⊢
    cases hend with
    | refused _ kept _ =>
      rw [kept]
      rfl
    | made refusal changed _ =>
      rw [changed]
      by_cases h : v = w
      · subst h
        obtain ⟨hresult, hnode⟩ := Change.outcome_of_taken (taken rfl refusal)
        simp [Exchange.changeOf?, hresult, hnode]
      · have hfile : w.file ≠ v.file := fun hf => h (Variable.file_injective hf).symm
        rw [if_neg hfile]
        cases (c.outcome v s.writes).result <;> simp [Exchange.changeOf?, h]

/-- What an operation that failed has done: nothing, or it was a write and the call did not take the
whole record. -/
inductive FailureEnd (s : VariableStore) (v : Variable) (e : StoreError) :
    Operation → VariableStore → Prop
  | unchanged {op : Operation} {next : VariableStore} (kept : next.directory = s.directory) :
    FailureEnd s v e op next
  | cut {attributes : Attributes} {value left : Bytes} {next : VariableStore}
    (refusal : (Change.write attributes value).refusal? v (s.contents.under v) = none)
    (cut : CutShort v.name
      (s.writes.call v.file (variableContent attributes.granted value)).1 e left)
    (directory : next.directory = s.directory.insert v.file (.file left)) :
    FailureEnd s v e (.change (.write attributes value)) next

theorem failureEnd_perform {s : VariableStore} (hw : s.writable = true) {v : Variable}
    {op : Operation} {e : StoreError} (failed : (s.perform v op).1.error? = some e) :
    FailureEnd s v e op (s.perform v op).2 := by
  cases op with
  | read => exact .unchanged rfl
  | change c =>
    cases c with
    | write attributes value =>
      have hanswer : (s.write v.scope v.name attributes value).value.1 = .error e := by
        simp only [perform, Prod.map] at failed
        cases h : (s.write v.scope v.name attributes value).value.1 with
        | ok u =>
          rw [h] at failed
          cases failed
        | error e' =>
          rw [h] at failed
          rw [Option.some.inj failed]
      by_cases hn : s.directory.get? v.file = some .directory
      · have hcreate : s.directory.create v.file = _ := create_of_directory v.check_file hn
        exact .unchanged (write_of_refused attributes value hw hcreate).2
      · obtain ⟨left, hcut, hleft⟩ := cutShort_of_write hw v.check_file hn hanswer
        exact .cut ((Change.refusal?_write attributes value).mpr hn) hcut hleft
    | delete =>
      have hend := changeEnd_delete hw v
      generalize s.perform v (.change .delete) = outcome at hend failed ⊢
      cases hend with
      | refused _ kept _ => exact .unchanged kept
      | made => cases failed

/-- An operation that failed has not cut a record that is taken whole. -/
theorem FailureEnd.kept {s next : VariableStore} {v : Variable} {e : StoreError} {op : Operation}
    (failed : FailureEnd s v e op next) (taken : s.TakesRecord v op) :
    next.directory = s.directory := by
  cases failed with
  | unchanged kept => exact kept
  | cut refusal cut _ => exact absurd (taken refusal) cut.not_whole

theorem perform_takesWhole {s : VariableStore} (whole : s.writes.TakesWhole) (v : Variable)
    (op : Operation) : (s.perform v op).2.writes.TakesWhole := by
  cases op with
  | read => exact whole
  | change c =>
    cases c with
    | write attributes value => exact write_takesWhole whole v.scope v.name attributes value
    | delete =>
      have hwrites : (s.perform v (.change .delete)).2.writes = s.writes := s.delete_writes _ _
      rwa [hwrites]

theorem perform_of_readOnly {s : VariableStore} (hr : s.writable = false) (v : Variable)
    (op : Operation) : (s.perform v op).2 = s ∧
      ∀ c, op = .change c → (s.perform v op).1 = .done (.error .readOnly) := by
  cases op with
  | read => exact ⟨rfl, nofun⟩
  | change c =>
    cases c with
    | write attributes value => simp [perform, write_of_readOnly hr]
    | delete => simp [perform, delete_of_readOnly hr]

/-! ### Whole runs -/

theorem serve_writable (s : VariableStore) (operations : List (Variable × Operation)) :
    (serve perform s operations).2.writable = s.writable := by
  induction operations generalizing s with
  | nil => rfl
  | cons first rest ih => exact (ih _).trans (s.perform_writable first.1 first.2)

/-- By induction on the operations: the store and the map of its contents keep in step. -/
theorem serve_contents {s : VariableStore} (hw : s.writable = true)
    (operations : List (Variable × Operation)) :
    serve Contents.perform s.contents operations =
      ((serve perform s operations).1, (serve perform s operations).2.contents) := by
  induction operations generalizing s with
  | nil => rfl
  | cons first rest ih =>
    obtain ⟨v, op⟩ := first
    have hnext := ih ((s.perform_writable v op).trans hw)
    simp only [serve, perform_contents hw, hnext]

theorem get?_serve_of_forall_ne {s : VariableStore} (hw : s.writable = true) {file : Bytes}
    (other : ∀ v : Variable, file ≠ v.file) (operations : List (Variable × Operation)) :
    (serve perform s operations).2.directory.get? file = s.directory.get? file := by
  induction operations generalizing s with
  | nil => rfl
  | cons first rest ih =>
    obtain ⟨v, op⟩ := first
    exact (ih ((s.perform_writable v op).trans hw)).trans (get?_perform_of_ne hw (other v) op)

/-- The records of this variable that the run writes are taken whole. -/
def TakesRecords (v : Variable) (s : VariableStore) : List (Variable × Operation) → Prop
  | [] => True
  | (w, op) :: rest =>
    (w = v → s.TakesRecord w op) ∧ TakesRecords v (s.perform w op).2 rest

theorem takesRecords_of_takesWhole {s : VariableStore} (whole : s.writes.TakesWhole) (v : Variable)
    (operations : List (Variable × Operation)) : s.TakesRecords v operations := by
  induction operations generalizing s with
  | nil => trivial
  | cons first rest ih =>
    obtain ⟨w, op⟩ := first
    refine ⟨fun _ => ?_, ih (perform_takesWhole whole w op)⟩
    match op with
    | .read => trivial
    | .change .delete => exact fun _ => trivial
    | .change (.write _ _) => exact fun _ => whole.takes _ _

/-- By induction on the operations: each variable is as its last change left it. -/
theorem get?_serve {s : VariableStore} (hw : s.writable = true) {v : Variable}
    {operations : List (Variable × Operation)} (taken : s.TakesRecords v operations) :
    (serve perform s operations).2.directory.get? v.file =
      match lastChange? v (serve perform s operations).1 with
      | none => s.directory.get? v.file
      | some c => c.node? := by
  induction operations generalizing s with
  | nil => rfl
  | cons first rest ih =>
    obtain ⟨w, op⟩ := first
    obtain ⟨hfirst, hrest⟩ := taken
    have hnext := ih ((s.perform_writable w op).trans hw) hrest
    have hstep := get?_perform hw hfirst
    simp only [serve, lastChange?_cons]
    rw [hnext]
    cases lastChange? v (serve perform (s.perform w op).2 rest).1 with
    | some c => rfl
    | none => exact hstep

theorem serve_of_readOnly {s : VariableStore} (hr : s.writable = false)
    (operations : List (Variable × Operation)) :
    (serve perform s operations).2 = s ∧ ∀ e ∈ (serve perform s operations).1, ∀ c,
      e.operation = .change c → e.answer = .done (.error .readOnly) := by
  induction operations with
  | nil => exact ⟨rfl, nofun⟩
  | cons first rest ih =>
    obtain ⟨v, op⟩ := first
    obtain ⟨hsame, hanswer⟩ := perform_of_readOnly hr v op
    simp only [serve, hsame, List.forall_mem_cons]
    exact ⟨ih.1, hanswer, ih.2⟩

end VariableStore

/-- Access at boot comes with access at run time, and every other bit stays. -/
theorem Attributes.testBit_granted (a : Attributes) (i : Nat) :
    a.granted.bits.toNat.testBit i =
      (a.bits.toNat.testBit i || (decide (i = 1) && a.bits.toNat.testBit 2)) := by
  have hruntime : a.contains runtimeAccess = a.bits.toNat.testBit 2 := by
    have hbits : a.bits &&& 4 = 4 ↔ a.bits.toNat &&& 2 ^ 2 = 2 ^ 2 := by
      rw [← UInt32.toNat_inj, UInt32.toNat_and]
      rfl
    simp only [contains, runtimeAccess, hbits, Nat.and_two_pow]
    cases a.bits.toNat.testBit 2 <;> decide
  rw [granted, hruntime]
  cases hb : a.bits.toNat.testBit 2 with
  | false => simp
  | true =>
    have htwo : bootServiceAccess.bits.toNat = 2 ^ 1 := rfl
    rw [if_pos rfl, union, UInt32.toNat_or, Nat.testBit_or, htwo, Nat.testBit_two_pow]
    simp [eq_comm]

namespace VariableStore

/-- What a writable store `s` has become when it has given these answers to these operations. It is the
map of its contents all along, whatever calls to write to its files answer. -/
structure RunContract (s : VariableStore) (operations : List (Variable × Operation))
    (exchanges : List Exchange) (last : VariableStore) : Prop where
  simulated : serve Contents.perform s.contents operations = (exchanges, last.contents)
  others : ∀ file, (∀ v : Variable, file ≠ v.file) →
    last.directory.get? file = s.directory.get? file
  /-- The next operation leaves alone all files but that of its variable. -/
  frame : ∀ v op file, file ≠ v.file →
    (last.perform v op).2.directory.get? file = last.directory.get? file
  failed : ∀ v op e, (last.perform v op).1.error? = some e →
    FailureEnd last v e op (last.perform v op).2
  /-- It leaves alone all files if it fails, unless its record is cut. -/
  kept : ∀ v op e, (last.perform v op).1.error? = some e → last.TakesRecord v op →
    (last.perform v op).2.directory = last.directory
  whole : ∀ (v : Variable) attributes value,
    last.directory.get? v.file = some (.file (Bytes.ofWord32 attributes.bits ++ value)) →
    last.read v.scope v.name = .ok (value, attributes)
  bare : ∀ (v : Variable) content, last.directory.get? v.file = some (.file content) →
    content.length = 4 → ∃ attributes, last.read v.scope v.name = .ok ([], attributes)
  short : ∀ (v : Variable) content, last.directory.get? v.file = some (.file content) →
    content.length < 4 → last.read v.scope v.name = .error (.malformed v.name content.length)

/-- What one variable is after these exchanges, if its records were taken whole. -/
structure MapContract (s : VariableStore) (v : Variable) (exchanges : List Exchange)
    (last : VariableStore) : Prop where
  /-- The value that was written last is all that the file holds after the attributes. -/
  written : ∀ attributes value, lastChange? v exchanges = some (.write attributes value) →
    ∃ kept, last.read v.scope v.name = .ok (value, kept) ∧
      last.directory.get? v.file = some (.file (Bytes.ofWord32 kept.bits ++ value)) ∧
      ∀ i, kept.bits.toNat.testBit i =
        (attributes.bits.toNat.testBit i || (decide (i = 1) && attributes.bits.toNat.testBit 2))
  deleted : lastChange? v exchanges = some .delete →
    last.read v.scope v.name = .error (.notFound v.name) ∧ last.directory.get? v.file = none
  unchanged : lastChange? v exchanges = none →
    last.directory.get? v.file = s.directory.get? v.file

theorem runContract_serve {s : VariableStore} (hw : s.writable = true)
    (operations : List (Variable × Operation)) :
    RunContract s operations (serve perform s operations).1 (serve perform s operations).2 where
  simulated := serve_contents hw operations
  others _ other := get?_serve_of_forall_ne hw other operations
  frame _ op _ other := get?_perform_of_ne ((serve_writable s operations).trans hw) other op
  failed _ _ _ failed := failureEnd_perform ((serve_writable s operations).trans hw) failed
  kept _ _ _ failed := (failureEnd_perform ((serve_writable s operations).trans hw) failed).kept
  whole v _ _ hnode := readFrom_variableContent v.check_file hnode
  bare v content hnode hsize := by
    obtain ⟨b₀, b₁, b₂, b₃, value, rfl⟩ := exists_header_of_size_le hsize.ge
    obtain rfl : value = [] := by simpa using hsize
    exact ⟨_, readFrom_of_file v.check_file hnode⟩
  short v _ hnode hsize := readFrom_of_short v.check_file hnode hsize

theorem mapContract_serve {s : VariableStore} (hw : s.writable = true) {v : Variable}
    {operations : List (Variable × Operation)} (taken : s.TakesRecords v operations) :
    MapContract s v (serve perform s operations).1 (serve perform s operations).2 := by
  -- What is read follows from what is under the name.
  have hnode := get?_serve hw taken
  generalize serve perform s operations = outcome at *
  obtain ⟨exchanges, last⟩ := outcome
  refine ⟨?_, ?_, ?_⟩
  · intro attributes value hlast
    rw [hlast] at hnode
    exact ⟨attributes.granted, readFrom_variableContent v.check_file hnode, hnode,
      attributes.testBit_granted⟩
  · intro hlast
    rw [hlast] at hnode
    exact ⟨readFrom_of_absent v.check_file hnode, hnode⟩
  · intro hlast
    rwa [hlast] at hnode

/-- A store is a map from variables over every run of operations, as far as their records are taken
whole; of one that is not, its own file has what was taken, and that is told. A store that is read-only
is not touched by any operation. -/
theorem serve_spec (s : VariableStore) (operations : List (Variable × Operation)) :
    (s.writable = true →
      RunContract s operations (serve perform s operations).1 (serve perform s operations).2 ∧
      ∀ v, s.TakesRecords v operations →
        MapContract s v (serve perform s operations).1 (serve perform s operations).2) ∧
    (s.writable = false → (serve perform s operations).2 = s ∧
      ∀ e ∈ (serve perform s operations).1, ∀ c, e.operation = .change c →
        e.answer = .done (.error .readOnly)) :=
  ⟨fun hw => ⟨runContract_serve hw operations, fun _ taken => mapContract_serve hw taken⟩,
    fun hr => serve_of_readOnly hr operations⟩

def language : Variable where
  scope := .globalVariable
  name := "Lang"
  component := by decide
  text := by decide
  fits := by decide +kernel

def emptyStore : VariableStore where
  directory := .empty
  writable := true
  flags := ⟨InodeFlags.immutable, false, false, 0, []⟩

/-- A shorter value written over a longer one, with access at run time. -/
def languageWrites : List (Variable × Operation) :=
  [(language, .change (.write .runtimeAccess [1, 2, 3])),
    (language, .change (.write .runtimeAccess [9]))]

/-- The value is read back without a remainder of the longer one, and with access at boot. -/
theorem serve_languageWrites :
    ∃ kept, (serve perform emptyStore languageWrites).2.read .globalVariable "Lang" =
        .ok ([9], kept) ∧
      kept.bits.toNat.testBit 1 = true ∧ kept.bits.toNat.testBit 2 = true := by
  obtain ⟨hwritable, -⟩ := serve_spec emptyStore languageWrites
  obtain ⟨-, hmap⟩ := hwritable rfl
  have hwhole : emptyStore.TakesRecords language languageWrites :=
    takesRecords_of_takesWhole WriteCalls.whole_takesWhole language languageWrites
  obtain ⟨kept, hread, -, hbits⟩ :=
    (hmap language hwhole).written .runtimeAccess [9] (by decide +kernel)
  refine ⟨kept, hread, ?_, ?_⟩
  · rw [hbits]
    decide
  · rw [hbits]
    decide

end VariableStore

end NextBoot.Firmware
