import NextBoot.Proofs.Firmware.EntryMap
import NextBoot.Proofs.Firmware.StoredOrder

/-! What promotion makes of the boot order and of the store, and when it does. -/
namespace NextBoot.Firmware

/-- The least of a group of indices stands first and only there, the others of the group are gone,
and everything else is as it was. -/
structure BroughtForward (group : Finset UInt16) (old new : BootOrder) (first : UInt16) : Prop where
  mem : first ∈ group
  least : ∀ i ∈ group, first ≤ i
  order : new.indices = first :: old.indices.filter (· ∉ group)
  once : new.indices.count first = 1
  gone : ∀ i ∈ group, i ≠ first → i ∉ new.indices
  multiplicity : ∀ i ∉ group, new.indices.count i = old.indices.count i
  relative : new.indices.filter (· ∉ group) = old.indices.filter (· ∉ group)

/-- The store afterwards has a new order, and all other files as before. -/
structure OrderStored (s after : VariableStore) (new : BootOrder) : Prop where
  order : BootOrder.read after = .ok new
  value : after.read .globalVariable BootOrder.variableName =
    .ok (new.encode,
      (Attributes.nonVolatile.union .bootServiceAccess).union .runtimeAccess)
  files : ∀ name ≠ BootOrder.file, after.directory.get? name = s.directory.get? name

/-- The call for the new order failed, or did not take its whole record. What it took is all that the
file of the order holds, and no other file has changed. -/
structure OrderCut (s after : VariableStore) (new : BootOrder) (e : StoreError) (left : Bytes) :
    Prop where
  answer : CutShort BootOrder.variableName (s.writes.call BootOrder.file new.record).1 e left
  directory : after.directory = s.directory.insert BootOrder.file (.file left)

/-- The ways in which promotion ends. -/
inductive PromotionEnd (s : VariableStore) (description : String) :
    Except BootError BootOrder × VariableStore → Prop where
  | unreadable {e : BootError} (read : BootOrder.read s = .error e) :
    PromotionEnd s description (.error e, s)
  | unlistable {old : BootOrder} {errno : Errno} (read : BootOrder.read s = .ok old)
    (list : s.directory.unlistable = some errno) :
    PromotionEnd s description (.error (.store (.ofErrno .listing "." errno)), s)
  | missing {old : BootOrder} (read : BootOrder.read s = .ok old)
    (list : s.directory.unlistable = none) (group : described s description = ∅) :
    PromotionEnd s description (.error (.entryNotFound description), s)
  | readOnly {old : BootOrder} (read : BootOrder.read s = .ok old)
    (list : s.directory.unlistable = none) (group : (described s description).Nonempty)
    (writable : s.writable = false) : PromotionEnd s description (.error (.store .readOnly), s)
  | done {old new : BootOrder} {first : UInt16} {after : VariableStore}
    (read : BootOrder.read s = .ok old) (list : s.directory.unlistable = none)
    (forward : BroughtForward (described s description) old new first)
    (writable : s.writable = true) (stored : OrderStored s after new) :
    PromotionEnd s description (.ok new, after)
  | cut {old new : BootOrder} {first : UInt16} {after : VariableStore} {e : StoreError} {left : Bytes}
    (read : BootOrder.read s = .ok old) (list : s.directory.unlistable = none)
    (forward : BroughtForward (described s description) old new first)
    (writable : s.writable = true) (cut : OrderCut s after new e left) :
    PromotionEnd s description (.error (.store e), after)

theorem promoted_broughtForward {group : Finset UInt16} {first : UInt16} {stale : List UInt16}
    (hs : ∀ i, i ∈ stale ↔ i ∈ group) (hmem : first ∈ group) (hleast : ∀ i ∈ group, first ≤ i)
    (old : BootOrder) : BroughtForward group old (old.promoted first stale) first := by
  have hf : old.indices.filter (· ∉ stale) = old.indices.filter (· ∉ group) := by
    apply List.filter_congr
    intro i _
    simp only [hs]
  have ho : (old.promoted first stale).indices = first :: old.indices.filter (· ∉ group) := by
    rw [BootOrder.promoted, hf]
  refine ⟨hmem, hleast, ho, ?_, ?_, ?_, ?_⟩
  · have hnot : first ∉ old.indices.filter (· ∉ group) := by
      intro h
      simpa [hmem] using (List.mem_filter.mp h).2
    rw [ho, List.count_cons_self, List.count_eq_zero.mpr hnot]
  · intro i hi hne hin
    rw [ho] at hin
    rcases List.mem_cons.mp hin with rfl | hin
    · exact hne rfl
    · simpa [hi] using (List.mem_filter.mp hin).2
  · intro i hi
    have hne : first ≠ i := by
      rintro rfl
      exact hi hmem
    rw [ho, List.count_cons_of_ne hne, List.count_filter (by simpa using hi)]
  · rw [ho, List.filter_cons_of_neg (by simpa using hmem), List.filter_filter]
    simp only [Bool.and_self]

/-- Where the order can be read, its file is no directory. -/
theorem BootOrder.Readable.ne_directory {d : Directory} (hr : BootOrder.Readable d) :
    d.get? BootOrder.file ≠ some .directory := by
  rcases hr with h | ⟨content, h, -⟩ <;> simp [h]

theorem orderCut_of_write {s : VariableStore} (hw : s.writable = true)
    (hr : BootOrder.Readable s.directory) {order : BootOrder} {e : StoreError}
    (h : (order.write s).value.1 = .error e) :
    ∃ left, OrderCut s (order.write s).value.2 order e left := by
  obtain ⟨left, hcut, hfiles⟩ := VariableStore.cutShort_of_write hw BootOrder.check_file
    hr.ne_directory h
  exact ⟨left, hcut, hfiles⟩

theorem orderStored_of_write {s : VariableStore} {order : BootOrder}
    (h : (order.write s).value.1 = .ok ()) : OrderStored s (order.write s).value.2 order := by
  have hdir : (order.write s).value.2.directory = s.directory.insert BootOrder.file
      (.file order.record) := VariableStore.directory_of_write h
  have hget : (order.write s).value.2.directory.get? BootOrder.file = some (.file order.record) := by
    rw [hdir, Directory.get?_insert, if_pos rfl]
  have hvar := VariableStore.readFrom_variableContent BootOrder.check_file hget
  refine ⟨?_, hvar, ?_⟩
  · have hread : (order.write s).value.2.read .globalVariable BootOrder.variableName =
        .ok (order.encode, BootOrder.attributes.granted) := hvar
    simp only [BootOrder.read, hread, BootOrder.decode_encode]
  · intro name hne
    rw [hdir, Directory.get?_insert, if_neg hne]

theorem promotionEnd_promote (s : VariableStore) (description : String) :
    PromotionEnd s description (promote s description).value := by
  cases hread : BootOrder.read s with
  | error e =>
    rw [promote, hread]
    exact .unreadable hread
  | ok old =>
    cases hlist : s.directory.unlistable with
    | some errno =>
      simp only [promote, hread, Logged.value_bind, bootEntries_of_unlistable hlist]
      exact .unlistable hread hlist
    | none =>
      obtain ⟨entries, he⟩ := exists_bootEntries hlist
      cases hm : matching entries description with
      | nil =>
        simp only [promote, hread, Logged.value_bind, he, hm]
        exact .missing hread hlist ((matching_eq_nil_iff he).mp hm)
      | cons first others =>
        obtain ⟨hmem, hleast⟩ := isLeast_of_matching_eq he hm
        cases hw : s.writable with
        | false =>
          have hwrite (order : BootOrder) : (order.write s).value = (.error .readOnly, s) :=
            VariableStore.write_of_readOnly hw
          simp only [promote, hread, Logged.value_bind, he, hm, hwrite]
          exact .readOnly hread hlist ⟨first, hmem⟩ hw
        | true =>
          have hstale (i : UInt16) : i ∈ first :: others ↔ i ∈ described s description := by
            rw [← hm, mem_matching_iff he]
          have hforward := promoted_broughtForward hstale hmem hleast old
          have hreadable := BootOrder.exists_read_eq_ok_iff.mp ⟨old, hread⟩
          cases hv : ((old.promoted first (first :: others)).write s).value with
          | mk result after =>
            simp only [promote, hread, Logged.value_bind, he, hm, hv]
            cases result with
            | error e =>
              obtain ⟨left, hcut⟩ := orderCut_of_write hw hreadable (congrArg Prod.fst hv)
              rw [hv] at hcut
              exact .cut hread hlist hforward hw hcut
            | ok u =>
              have hstored := orderStored_of_write (congrArg Prod.fst hv)
              rw [hv] at hstored
              exact .done hread hlist hforward hw hstored

theorem OrderCut.not_takes {s after : VariableStore} {new : BootOrder} {e : StoreError} {left : Bytes}
    (cut : OrderCut s after new e left) : ¬s.writes.Takes BootOrder.file new.record :=
  cut.answer.not_whole

/-- If promotion comes as far as writing the new order, its record is taken whole. -/
def OrderTaken (s : VariableStore) (description : String) : Prop :=
  ∀ old new first, BootOrder.read s = .ok old → s.directory.unlistable = none →
    BroughtForward (described s description) old new first → s.writable = true →
    s.writes.Takes BootOrder.file new.record

/-- Promotion end to end: when it answers with an order, which order that is and where it is found
afterwards, and that it otherwise leaves the store alone and tells the first thing wrong with it.
That is as long as the new order is written whole: of one that is not, the file holds what was taken,
and that is told. -/
theorem promote_spec (s : VariableStore) (description : String) :
    (OrderTaken s description → ((∃ new, (promote s description).value.1 = .ok new) ↔
      s.directory.unlistable = none ∧ BootOrder.Readable s.directory ∧
        (described s description).Nonempty ∧ s.writable = true)) ∧
    (∀ new, (promote s description).value.1 = .ok new →
      ∃ old first, BootOrder.read s = .ok old ∧
        (s.directory.get? BootOrder.file = none → old = .empty) ∧
        BroughtForward (described s description) old new first ∧
        OrderStored s (promote s description).value.2 new) ∧
    ∀ e, (promote s description).value.1 = .error e →
      (e = .entryNotFound description ↔ s.directory.unlistable = none ∧
        BootOrder.Readable s.directory ∧ described s description = ∅) ∧
      (¬BootOrder.Readable s.directory → BootOrder.read s = .error e) ∧
      (∀ errno, BootOrder.Readable s.directory → s.directory.unlistable = some errno →
        e = .store (.ofErrno .listing "." errno)) ∧
      (BootOrder.Readable s.directory → s.directory.unlistable = none →
        (described s description).Nonempty → s.writable = false → e = .store .readOnly) ∧
      (OrderTaken s description → (promote s description).value.2 = s) ∧
      ((promote s description).value.2 = s ∨ ∃ old new first cause left,
        BootOrder.read s = .ok old ∧ BroughtForward (described s description) old new first ∧
        e = .store cause ∧ OrderCut s (promote s description).value.2 new cause left) := by
  have hend := promotionEnd_promote s description
  generalize (promote s description).value = answer at hend ⊢
  have hreadable {old : BootOrder} (read : BootOrder.read s = .ok old) :
      BootOrder.Readable s.directory := BootOrder.exists_read_eq_ok_iff.mp ⟨old, read⟩
  cases hend with
  | @unreadable e read =>
    have hnot : ¬BootOrder.Readable s.directory := by
      intro h
      obtain ⟨old, hold⟩ := BootOrder.exists_read_eq_ok_iff.mpr h
      rw [hold] at read
      cases read
    have hne : e ≠ .entryNotFound description := by
      rintro rfl
      exact BootOrder.read_ne_entryNotFound description read
    refine ⟨by simp [hnot], by simp, ?_⟩
    intro e' he
    obtain rfl : e = e' := Except.error.inj he
    simp [hnot, hne, read]
  | unlistable read list =>
    refine ⟨by simp [list], by simp, ?_⟩
    intro e he
    obtain rfl := Except.error.inj he
    simp [list, hreadable read]
  | missing read list group =>
    refine ⟨by simp [group], by simp, ?_⟩
    intro e he
    obtain rfl := Except.error.inj he
    simp [list, hreadable read, group]
  | readOnly read list group writable =>
    refine ⟨by simp [writable], by simp, ?_⟩
    intro e he
    obtain rfl := Except.error.inj he
    simp [list, hreadable read, group.ne_empty]
  | @done old new first after read list forward writable stored =>
    refine ⟨fun _ => ?_, ?_, by simp⟩
    · constructor
      · intro _
        exact ⟨list, hreadable read, ⟨first, forward.mem⟩, writable⟩
      · intro _
        exact ⟨new, rfl⟩
    · intro new' hn
      obtain rfl : new = new' := Except.ok.inj hn
      refine ⟨old, first, read, ?_, forward, stored⟩
      intro habsent
      exact Except.ok.inj (read.symm.trans (BootOrder.read_of_absent habsent))
  | @cut old new first after cause left read list forward writable cut =>
    have hnot : ¬OrderTaken s description :=
      fun taken => cut.not_takes (taken old new first read list forward writable)
    have hsome : (described s description).Nonempty := ⟨first, forward.mem⟩
    refine ⟨fun taken => absurd taken hnot, by simp, ?_⟩
    intro e he
    obtain rfl := Except.error.inj he
    refine ⟨by simp [hsome.ne_empty], fun h => absurd (hreadable read) h, ?_, ?_,
      fun taken => absurd taken hnot, .inr ⟨old, new, first, cause, left, read, forward, rfl, cut⟩⟩
    · intro errno _ unlistable
      rw [list] at unlistable
      cases unlistable
    · intro _ _ _ readOnly
      rw [writable] at readOnly
      cases readOnly

def entryFile (name description : String) : Bytes × Node :=
  (variableFile .globalVariable name,
    .file (variableContent BootOrder.attributes (LoadOption.encode ⟨1, description, []⟩ 0)))

/-- Two entries of one description, and an order with a repeated and an unknown index. -/
def smallStore : VariableStore where
  directory := .ofList
    [entryFile "Boot0001" "Disk", entryFile "Boot000a" "Talos", entryFile "Boot0003" "Talos",
      (BootOrder.file,
        .file (variableContent BootOrder.attributes (BootOrder.encode ⟨[1, 10, 1, 7, 3]⟩)))]
  writable := true
  flags := ⟨0, false, false, 0, []⟩

/-- The same on a full disk: a file can be emptied, but not written. -/
def fullStore : VariableStore :=
  { smallStore with writes := { answer := fun _ _ _ => .error ⟨28⟩ } }

/-- The new order is found where it was stored. On a full disk it is not, and the one before is lost. -/
theorem promote_smallStore :
    ((described smallStore "Talos").Nonempty ∧
      (promote smallStore "Talos").value.1 = .ok ⟨[3, 1, 1, 7]⟩ ∧
      BootOrder.read (promote smallStore "Talos").value.2 = .ok ⟨[3, 1, 1, 7]⟩) ∧
    (promote fullStore "Talos").value.1 = .error (.store (.io .writing "BootOrder" (.os ⟨28⟩))) ∧
      (promote fullStore "Talos").value.2.directory.get? BootOrder.file = some (.file []) := by
  have hok : (promote smallStore "Talos").value.1 = .ok ⟨[3, 1, 1, 7]⟩ := by decide +kernel
  have hfull : (promote fullStore "Talos").value.1 =
      .error (.store (.io .writing "BootOrder" (.os ⟨28⟩))) := by decide +kernel
  have htaken : OrderTaken smallStore "Talos" := fun _ _ _ _ _ _ _ => rfl
  obtain ⟨answered, stored, -⟩ := promote_spec smallStore "Talos"
  obtain ⟨-, -, hfound, -⟩ := (answered htaken).mp ⟨_, hok⟩
  obtain ⟨-, -, failed⟩ := promote_spec fullStore "Talos"
  obtain ⟨_, _, -, -, -, hstored⟩ := stored _ hok
  obtain ⟨-, -, -, -, -, hleft⟩ := failed _ hfull
  refine ⟨⟨hfound, hok, hstored.order⟩, hfull, ?_⟩
  rcases hleft with hsame | ⟨old, new, first, cause, left, -, -, -, hcut⟩
  · have hchanged : (promote fullStore "Talos").value.2.directory.get? BootOrder.file ≠
        fullStore.directory.get? BootOrder.file := by decide +kernel
    exact absurd (congrArg (·.directory.get? BootOrder.file) hsame) hchanged
  · rw [hcut.directory, Directory.get?_insert, if_pos rfl]
    cases hcut.answer with
    | failed errno => rfl

end NextBoot.Firmware
