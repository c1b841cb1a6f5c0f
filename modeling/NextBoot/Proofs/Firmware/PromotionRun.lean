import Mathlib.Data.List.Dedup
import Mathlib.Data.List.Forall2
import NextBoot.Proofs.Firmware.EntryFrame
import NextBoot.Proofs.Firmware.PromotedOrder

/-! Promoting one description after the other. The entries that the descriptions stand for stay what
they were, so the order after a run can be told from the store before it. -/
namespace NextBoot.Firmware

/-- What promoting each description in turn answers, and the store after the last. -/
def promoteEach (s : VariableStore) :
    List String → List (Except BootError BootOrder) × VariableStore
  | [] => ([], s)
  | description :: rest =>
    let (answer, next) := (promote s description).value
    let (answers, last) := promoteEach next rest
    (answer :: answers, last)

/-- Every promotion of the run succeeds. -/
def Accepted (s : VariableStore) (descriptions : List String) : Prop :=
  ∀ answer ∈ (promoteEach s descriptions).1, ∃ new, answer = .ok new

/-- The entry that promoting the description puts first. -/
structure IsFirst (s : VariableStore) (description : String) (first : UInt16) : Prop where
  mem : first ∈ described s description
  least : ∀ i ∈ described s description, first ≤ i

/-- The indices of the order that none of the descriptions stands for. -/
def BootOrder.others (old : BootOrder) (s : VariableStore) (descriptions : List String) :
    List UInt16 :=
  old.indices.filter fun i => ∀ description ∈ descriptions, i ∉ described s description

/-! ### The entries of different descriptions -/

section Described
variable {s : VariableStore} {d e : String} {i j : UInt16}

/-- An entry has only one description. -/
theorem description_unique (hd : i ∈ described s d) (he : i ∈ described s e) : d = e := by
  obtain ⟨-, -, -, o, hread, rfl⟩ := mem_described_iff.mp hd
  obtain ⟨-, -, -, o', hread', rfl⟩ := mem_described_iff.mp he
  obtain rfl : o = o' := Except.ok.inj (hread.symm.trans hread')
  rfl

theorem IsFirst.index_unique (hi : IsFirst s d i) (hj : IsFirst s d j) : i = j :=
  UInt16.le_antisymm (hi.least j hj.mem) (hj.least i hi.mem)

theorem isFirst_biUnique (s : VariableStore) : Relator.BiUnique (IsFirst s) where
  left := fun _ _ _ hd he => description_unique hd.mem he.mem
  right := fun _ _ _ hi hj => hi.index_unique hj

theorem IsFirst.ne (hi : IsFirst s d i) (hj : IsFirst s e j) (hne : d ≠ e) : i ≠ j := by
  rintro rfl
  exact hne (description_unique hi.mem hj.mem)

end Described

/-! ### One promotion -/

/-- What it takes for the promotion of a description to succeed, if its order is taken whole. -/
structure Promotable (s : VariableStore) (description : String) : Prop where
  listable : s.directory.unlistable = none
  readable : BootOrder.Readable s.directory
  found : (described s description).Nonempty
  writable : s.writable = true

/-- A promotion that succeeds: what it reads, and the file that it leaves. -/
structure Promoted (s : VariableStore) (description : String) (old new : BootOrder)
    (first : UInt16) (after : VariableStore) : Prop where
  promotable : Promotable s description
  read : BootOrder.read s = .ok old
  isFirst : IsFirst s description first
  order : new.indices = first :: old.indices.filter (· ∉ described s description)
  stored : BootOrder.read after = .ok new
  wrote : (new.write s).value = (.ok (), after)

section Promotion
variable {s after : VariableStore} {d e : String} {old new : BootOrder} {first : UInt16}

theorem promote_eq_write (h : (promote s d).value = (.ok new, after)) :
    (new.write s).value = (.ok (), after) := by
  unfold promote at h
  cases hread : BootOrder.read s with
  | error e =>
    rw [hread] at h
    cases h
  | ok old =>
    simp only [hread, Logged.value_bind] at h
    cases hentries : (bootEntries s).value with
    | error e =>
      rw [hentries] at h
      cases h
    | ok entries =>
      simp only [hentries] at h
      cases hm : matching entries d with
      | nil =>
        rw [hm] at h
        cases h
      | cons index others =>
        simp only [hm, Logged.value_bind] at h
        generalize hv : ((old.promoted index (index :: others)).write s).value = v at h
        obtain ⟨result, store⟩ := v
        cases result with
        | error e => cases h
        | ok u =>
          cases h
          exact hv

theorem promoted_of_promote (h : (promote s d).value = (.ok new, after)) :
    ∃ old first, Promoted s d old new first after := by
  have hend := promotionEnd_promote s d
  have hwrite := promote_eq_write h
  rw [h] at hend
  cases hend with
  | @done old _ first _ read list forward writable stored =>
    have hr := BootOrder.exists_read_eq_ok_iff.mp ⟨old, read⟩
    exact ⟨old, first, ⟨list, hr, ⟨first, forward.mem⟩, writable⟩, read,
      ⟨forward.mem, forward.least⟩, forward.order, stored.order, hwrite⟩

theorem Promoted.writable (p : Promoted s d old new first after) : after.writable = true := by
  have hw : (new.write s).value.2.writable = s.writable := VariableStore.write_writable ..
  rw [p.wrote] at hw
  exact hw.trans p.promotable.writable

theorem Promoted.takesWhole (p : Promoted s d old new first after) (whole : s.writes.TakesWhole) :
    after.writes.TakesWhole := by
  have hw : (new.write s).value.2.writes.TakesWhole :=
    VariableStore.write_takesWhole whole _ _ _ _
  rwa [p.wrote] at hw

theorem Promoted.directory (p : Promoted s d old new first after) :
    after.directory = s.directory.insert BootOrder.file (.file new.record) := by
  have hdir : (new.write s).value.2.directory = _ :=
    VariableStore.directory_of_write (congrArg Prod.fst p.wrote)
  rwa [p.wrote] at hdir

theorem Promotable.exists_promote (p : Promotable s d) (taken : OrderTaken s d) :
    ∃ new after, (promote s d).value = (.ok new, after) := by
  have hend := promotionEnd_promote s d
  generalize (promote s d).value = answer at hend ⊢
  cases hend with
  | unreadable read =>
    obtain ⟨old, hold⟩ := BootOrder.exists_read_eq_ok_iff.mpr p.readable
    rw [hold] at read
    cases read
  | unlistable read list =>
    rw [p.listable] at list
    cases list
  | missing read list group => exact absurd group p.found.ne_empty
  | readOnly read list group writable =>
    rw [p.writable] at writable
    cases writable
  | done => exact ⟨_, _, rfl⟩
  | cut read list forward writable cut =>
    exact absurd (taken _ _ _ read list forward writable) cut.not_takes

theorem sameButOrder_of_insert {node : Node}
    (h : after.directory = s.directory.insert BootOrder.file node) : SameButOrder s after where
  unlistable := by rw [h, Directory.insert]
  files := by
    intro name hne
    rw [h, Directory.get?_insert, if_neg hne]

theorem Promoted.sameButOrder (p : Promoted s d old new first after) : SameButOrder s after :=
  sameButOrder_of_insert p.directory

/-- A promotion that succeeds leaves the same promotions to be made. -/
theorem Promoted.promotable_iff (p : Promoted s d old new first after) :
    Promotable after e ↔ Promotable s e := by
  have hlist := p.sameButOrder.unlistable
  have hdescribed := p.sameButOrder.described e
  constructor
  · intro h
    exact ⟨p.promotable.listable, p.promotable.readable, hdescribed ▸ h.found,
      p.promotable.writable⟩
  · intro h
    exact ⟨hlist.trans h.listable, BootOrder.exists_read_eq_ok_iff.mp ⟨new, p.stored⟩,
      hdescribed ▸ h.found, p.writable⟩

/-- No promotion, whether it succeeds or not, changes another file than that of the order. -/
theorem sameButOrder_promote (s : VariableStore) (d : String) :
    SameButOrder s (promote s d).value.2 := by
  have hend := promotionEnd_promote s d
  generalize hv : (promote s d).value = answer at hend ⊢
  cases hend with
  | unreadable | unlistable | missing | readOnly => exact .refl s
  | done =>
    obtain ⟨_, _, p⟩ := promoted_of_promote hv
    exact p.sameButOrder
  | cut _ _ _ _ cut => exact sameButOrder_of_insert cut.directory

end Promotion

/-! ### A run of promotions -/

theorem promoteEach_cons {s after : VariableStore} {d : String}
    {answer : Except BootError BootOrder} (h : (promote s d).value = (answer, after))
    (rest : List String) : promoteEach s (d :: rest) =
      (answer :: (promoteEach after rest).1, (promoteEach after rest).2) := by
  rw [promoteEach, h]

theorem sameButOrder_promoteEach (s : VariableStore) (descriptions : List String) :
    SameButOrder s (promoteEach s descriptions).2 := by
  induction descriptions generalizing s with
  | nil => exact .refl s
  | cons d rest ih =>
    rw [promoteEach_cons rfl rest]
    exact (sameButOrder_promote s d).trans (ih _)

theorem accepted_cons_iff {s : VariableStore} {d : String} {rest : List String} :
    Accepted s (d :: rest) ↔
      ∃ new after, (promote s d).value = (.ok new, after) ∧ Accepted after rest := by
  generalize h : (promote s d).value = outcome
  obtain ⟨answer, next⟩ := outcome
  rw [Accepted, promoteEach_cons h rest, List.forall_mem_cons]
  constructor
  · rintro ⟨⟨new, rfl⟩, hrest⟩
    exact ⟨new, next, rfl, hrest⟩
  · rintro ⟨new, after, hsame, hrest⟩
    cases hsame
    exact ⟨⟨new, rfl⟩, hrest⟩

theorem promotable_of_accepted {s : VariableStore} {descriptions : List String}
    (accepted : Accepted s descriptions) : ∀ d ∈ descriptions, Promotable s d := by
  induction descriptions generalizing s with
  | nil => exact List.forall_mem_nil _
  | cons d rest ih =>
    obtain ⟨new, after, h, hrest⟩ := accepted_cons_iff.mp accepted
    obtain ⟨old, first, p⟩ := promoted_of_promote h
    rw [List.forall_mem_cons]
    refine ⟨p.promotable, ?_⟩
    intro e he
    exact p.promotable_iff.mp (ih hrest e he)

/-- As far as the run succeeds, its orders are taken whole. -/
def OrdersTaken (s : VariableStore) : List String → Prop
  | [] => True
  | d :: rest => OrderTaken s d ∧
    ∀ new after, (promote s d).value = (.ok new, after) → OrdersTaken after rest

theorem ordersTaken_of_takesWhole {s : VariableStore} (whole : s.writes.TakesWhole)
    (descriptions : List String) : OrdersTaken s descriptions := by
  induction descriptions generalizing s with
  | nil => trivial
  | cons d rest ih =>
    refine ⟨fun _ _ _ _ _ _ _ => whole.takes _ _, fun new after h => ?_⟩
    obtain ⟨old, first, p⟩ := promoted_of_promote h
    exact ih (p.takesWhole whole)

/-- Where its orders are taken whole, it can be told before a run that it succeeds, and not from the
order of its descriptions. -/
theorem accepted_of_promotable {s : VariableStore} {descriptions : List String}
    (taken : OrdersTaken s descriptions) (promotable : ∀ d ∈ descriptions, Promotable s d) :
    Accepted s descriptions := by
  induction descriptions generalizing s with
  | nil => exact List.forall_mem_nil _
  | cons d rest ih =>
    obtain ⟨hd, hrest⟩ := List.forall_mem_cons.mp promotable
    obtain ⟨taken, later⟩ := taken
    obtain ⟨new, after, h⟩ := hd.exists_promote taken
    obtain ⟨old, first, p⟩ := promoted_of_promote h
    refine accepted_cons_iff.mpr ⟨new, after, h, ih (later new after h) ?_⟩
    intro e he
    exact p.promotable_iff.mpr (hrest e he)

section Others
variable {s : VariableStore} {d : String} {old new : BootOrder} {first : UInt16}
  {rest : List String} {firsts : List UInt16}

theorem SameButOrder.others {t : VariableStore} (same : SameButOrder s t) (old : BootOrder)
    (descriptions : List String) : old.others t descriptions = old.others s descriptions := by
  unfold BootOrder.others
  simp only [same.described]

theorem others_filter (old : BootOrder) (d : String) (rest : List String) :
    BootOrder.others ⟨old.indices.filter (· ∉ described s d)⟩ s rest = old.others s (d :: rest) := by
  unfold BootOrder.others
  rw [List.filter_filter]
  apply List.filter_congr
  intro i _
  rw [← Bool.decide_and]
  apply decide_eq_decide.mpr
  rw [List.forall_mem_cons, and_comm]

/-- What is first goes again only by the promotion of its own description. -/
theorem IsFirst.stays_iff (hf : IsFirst s d first) :
    (∀ e ∈ rest, first ∉ described s e) ↔ d ∉ rest := by
  constructor
  · intro h hd
    exact h d hd hf.mem
  · intro hd e he hin
    obtain rfl := description_unique hf.mem hin
    exact hd he

/-- What a promotion and the rest of its run make of an order. -/
theorem dedup_append_others (hf : IsFirst s d first) (hrest : List.Forall₂ (IsFirst s) rest firsts)
    (horder : new.indices = first :: old.indices.filter (· ∉ described s d)) :
    firsts.dedup.reverse ++ new.others s rest =
      (first :: firsts).dedup.reverse ++ old.others s (d :: rest) := by
  have hmem : d ∈ rest ↔ first ∈ firsts := List.rel_mem (isFirst_biUnique s) hf hrest
  rw [← others_filter old d rest, BootOrder.others, horder]
  by_cases hd : d ∈ rest
  · have hgone : ¬∀ e ∈ rest, first ∉ described s e := by
      rw [hf.stays_iff]
      exact not_not.mpr hd
    rw [List.dedup_cons_of_mem (hmem.mp hd), List.filter_cons_of_neg (by simpa using hgone),
      BootOrder.others]
  · have hstays : ∀ e ∈ rest, first ∉ described s e := hf.stays_iff.mpr hd
    rw [List.dedup_cons_of_notMem (mt hmem.mpr hd),
      List.filter_cons_of_pos (by simpa using hstays), List.reverse_cons, List.append_assoc,
      BootOrder.others]
    rfl

end Others

/-- By induction on the run: what each promotion puts first is put behind what the later ones put
there, unless one of them puts it first again. -/
theorem promoteEach_order {s : VariableStore} {descriptions : List String}
    (accepted : Accepted s descriptions) {old : BootOrder} (read : BootOrder.read s = .ok old) :
    ∃ firsts, List.Forall₂ (IsFirst s) descriptions firsts ∧
      BootOrder.read (promoteEach s descriptions).2 =
        .ok ⟨firsts.dedup.reverse ++ old.others s descriptions⟩ := by
  induction descriptions generalizing s old with
  | nil =>
    refine ⟨[], .nil, ?_⟩
    simpa [promoteEach, BootOrder.others] using read
  | cons d rest ih =>
    obtain ⟨new, after, h, hrest⟩ := accepted_cons_iff.mp accepted
    obtain ⟨found, first, p⟩ := promoted_of_promote h
    obtain rfl : found = old := Except.ok.inj (p.read.symm.trans read)
    obtain ⟨firsts, hfirsts, hlast⟩ := ih hrest p.stored
    have hfirsts' : List.Forall₂ (IsFirst s) rest firsts := by
      apply hfirsts.imp
      intro e i hi
      have hdescribed := p.sameButOrder.described e
      exact ⟨hdescribed ▸ hi.mem, hdescribed ▸ hi.least⟩
    refine ⟨first :: firsts, .cons p.isFirst hfirsts', ?_⟩
    rw [promoteEach_cons h rest, hlast, p.sameButOrder.others,
      dedup_append_others p.isFirst hfirsts' p.order]

/-! ### The same description twice, and two descriptions in either order -/

theorem Promoted.again {s after again : VariableStore} {d : String} {old new new' : BootOrder}
    {first : UInt16} (p : Promoted s d old new first after)
    (h : (promote after d).value = (.ok new', again)) :
    new' = new ∧ again.directory = after.directory := by
  obtain ⟨old', first', p'⟩ := promoted_of_promote h
  have hdescribed := p.sameButOrder.described d
  obtain rfl : new = old' := Except.ok.inj (p.stored.symm.trans p'.read)
  obtain rfl : first' = first :=
    IsFirst.index_unique ⟨hdescribed ▸ p'.isFirst.mem, hdescribed ▸ p'.isFirst.least⟩ p.isFirst
  have horder : new'.indices = new.indices := by
    rw [p'.order, hdescribed, p.order, List.filter_cons_of_neg (by simpa using p.isFirst.mem),
      List.filter_filter]
    simp only [Bool.and_self]
  obtain rfl : new' = new := by
    cases new
    cases new'
    simpa using horder
  refine ⟨rfl, ?_⟩
  rw [p'.directory, p.directory, Directory.insert_insert]

/-- The order after two promotions of different descriptions. -/
theorem promoteEach_two {s : VariableStore} {d e : String} {i j : UInt16} {old : BootOrder}
    (accepted : Accepted s [d, e]) (read : BootOrder.read s = .ok old) (hi : IsFirst s d i)
    (hj : IsFirst s e j) (hne : d ≠ e) :
    BootOrder.read (promoteEach s [d, e]).2 = .ok ⟨j :: i :: old.others s [d, e]⟩ := by
  obtain ⟨firsts, hfirsts, hlast⟩ := promoteEach_order accepted read
  obtain rfl : firsts = [i, j] :=
    List.right_unique_forall₂' (isFirst_biUnique s).right hfirsts (.cons hi (.cons hj .nil))
  have hdedup : [i, j].dedup = [i, j] := List.Nodup.dedup (by simpa using hi.ne hj hne)
  rw [hlast, hdedup]
  rfl

/-- Promotion end to end, over any run: the entries stay what they were, and the order afterwards has
what was promoted, the latest first and each entry once, before all that no promoted description
stands for, as it stood. A promotion made twice is made once, and two promotions of different
descriptions differ in nothing but which of the two entries comes first. -/
theorem promoteEach_spec (s : VariableStore) :
    (∀ descriptions, bootEntries (promoteEach s descriptions).2 = bootEntries s) ∧
    (∀ descriptions, Accepted s descriptions →
      (descriptions ≠ [] → ∃ old, BootOrder.read s = .ok old) ∧
      ∀ old, BootOrder.read s = .ok old →
        ∃ firsts, List.Forall₂ (IsFirst s) descriptions firsts ∧
          BootOrder.read (promoteEach s descriptions).2 = .ok ⟨firsts.dedup.reverse ++
            old.indices.filter fun i => ∀ d ∈ descriptions, i ∉ described s d⟩) ∧
    (∀ d new after, (promote s d).value = (.ok new, after) →
      (OrderTaken after d → ∃ again, (promote after d).value = (.ok new, again)) ∧
      ∀ new' again, (promote after d).value = (.ok new', again) →
        new' = new ∧ again.directory = after.directory) ∧
    ∀ d e, d ≠ e → Accepted s [d, e] →
      (OrdersTaken s [e, d] → Accepted s [e, d]) ∧
      ∃ i j rest, IsFirst s d i ∧ IsFirst s e j ∧ i ≠ j ∧
        BootOrder.read (promoteEach s [d, e]).2 = .ok ⟨j :: i :: rest⟩ ∧
        (Accepted s [e, d] →
          BootOrder.read (promoteEach s [e, d]).2 = .ok ⟨i :: j :: rest⟩) := by
  refine ⟨?_, ?_, ?_, ?_⟩
  · intro descriptions
    exact (sameButOrder_promoteEach s descriptions).bootEntries
  · intro descriptions accepted
    refine ⟨?_, ?_⟩
    · intro hne
      obtain ⟨d, rest, rfl⟩ := List.exists_cons_of_ne_nil hne
      have hd : Promotable s d := promotable_of_accepted accepted d List.mem_cons_self
      exact BootOrder.exists_read_eq_ok_iff.mpr hd.readable
    · intro old read
      exact promoteEach_order accepted read
  · intro d new after h
    obtain ⟨old, first, p⟩ := promoted_of_promote h
    refine ⟨fun taken => ?_, fun new' again h' => p.again h'⟩
    obtain ⟨new', again, h'⟩ := (p.promotable_iff.mpr p.promotable).exists_promote taken
    obtain ⟨rfl, -⟩ := p.again h'
    exact ⟨again, h'⟩
  · intro d e hne accepted
    have promotable : ∀ x ∈ [e, d], Promotable s x := fun x hx =>
      promotable_of_accepted accepted x ((List.Perm.swap d e []).mem_iff.mp hx)
    obtain ⟨new, after, h, -⟩ := accepted_cons_iff.mp accepted
    obtain ⟨old, _, p⟩ := promoted_of_promote h
    obtain ⟨firsts, hfirsts, -⟩ := promoteEach_order accepted p.read
    cases hfirsts with
    | @cons _ i _ _ hi hrest =>
      cases hrest with
      | @cons _ j _ _ hj _ =>
        have hothers : old.others s [e, d] = old.others s [d, e] := by
          unfold BootOrder.others
          apply List.filter_congr
          intro x _
          simp only [List.forall_mem_cons, and_left_comm]
        refine ⟨fun taken => accepted_of_promotable taken promotable, i, j, old.others s [d, e],
          hi, hj, hi.ne hj hne, promoteEach_two accepted p.read hi hj hne, fun accepted' => ?_⟩
        rw [← hothers]
        exact promoteEach_two accepted' p.read hj hi hne.symm

/-- `Talos` before and after `Disk`: what was promoted twice is listed once. -/
theorem promoteEach_smallStore : Accepted smallStore ["Talos", "Disk", "Talos"] ∧
    BootOrder.read (promoteEach smallStore ["Talos", "Disk", "Talos"]).2 = .ok ⟨[3, 1, 7]⟩ := by
  have hentries : (bootEntries smallStore).value =
      .ok [(1, ⟨1, "Disk", []⟩), (3, ⟨1, "Talos", []⟩), (10, ⟨1, "Talos", []⟩)] := by
    decide +kernel
  have hread : BootOrder.read smallStore = .ok ⟨[1, 10, 1, 7, 3]⟩ := by decide +kernel
  have talos : described smallStore "Talos" = {3, 10} := by
    rw [described, hentries]
    decide
  have disk : described smallStore "Disk" = {1} := by
    rw [described, hentries]
    decide
  have promotable {d : String} (found : (described smallStore d).Nonempty) :
      Promotable smallStore d :=
    ⟨rfl, BootOrder.exists_read_eq_ok_iff.mp ⟨_, hread⟩, found, rfl⟩
  have accepted : Accepted smallStore ["Talos", "Disk", "Talos"] := by
    have htalos : Promotable smallStore "Talos" := promotable ⟨3, by rw [talos]; decide⟩
    have hdisk : Promotable smallStore "Disk" := promotable ⟨1, by rw [disk]; decide⟩
    apply accepted_of_promotable (ordersTaken_of_takesWhole WriteCalls.whole_takesWhole _)
    simp [htalos, hdisk]
  have htalos : IsFirst smallStore "Talos" 3 := by
    refine ⟨by rw [talos]; decide, ?_⟩
    intro i hi
    rw [talos, Finset.mem_insert, Finset.mem_singleton] at hi
    rcases hi with rfl | rfl
    · decide
    · decide
  have hdisk : IsFirst smallStore "Disk" 1 := by
    refine ⟨by rw [disk]; decide, ?_⟩
    intro i hi
    rw [disk, Finset.mem_singleton] at hi
    exact UInt16.le_of_eq hi.symm
  obtain ⟨-, run, -, -⟩ := promoteEach_spec smallStore
  obtain ⟨firsts, hfirsts, hlast⟩ := (run _ accepted).2 _ hread
  obtain rfl : firsts = [3, 1, 3] :=
    List.right_unique_forall₂' (isFirst_biUnique smallStore).right hfirsts
      (.cons htalos (.cons hdisk (.cons htalos .nil)))
  refine ⟨accepted, hlast.trans ?_⟩
  simp only [List.forall_mem_cons, talos, disk]
  decide

end NextBoot.Firmware
