import NextBoot.Toml.Document

/-! No table of a document has a key twice, at any depth: statements and inline tables change the
value of a key where it has one, or are refused. -/
namespace NextBoot.Toml

/-- No table in the value has a key twice. -/
inductive Value.WellKeyed : Value → Prop
  | string (text : String) : WellKeyed (.string text)
  | integer (n : Option Int) : WellKeyed (.integer n)
  | float (text : String) : WellKeyed (.float text)
  | boolean (b : Bool) : WellKeyed (.boolean b)
  | dateTime (text : String) : WellKeyed (.dateTime text)
  | array (growing : Bool) {items : List Value} (each : ∀ v ∈ items, WellKeyed v) :
    WellKeyed (.array growing items)
  | table (origin : Origin) {entries : List (String × Value)}
    (distinct : (entries.map Prod.fst).Nodup) (each : ∀ e ∈ entries, WellKeyed e.2) :
    WellKeyed (.table origin entries)

namespace Entries

structure WellKeyed (entries : Entries) : Prop where
  distinct : (entries.map Prod.fst).Nodup
  each : ∀ e ∈ entries, e.2.WellKeyed

theorem WellKeyed.nil : WellKeyed [] := ⟨List.nodup_nil, fun _ he => nomatch he⟩

theorem lookup_eq_some_iff {entries : Entries} (distinct : (entries.map Prod.fst).Nodup)
    {key : String} {v : Value} : entries.lookup key = some v ↔ (key, v) ∈ entries := by
  rw [List.lookup_eq_some_iff]
  constructor
  · rintro ⟨before, after, rfl, -⟩
    exact List.mem_append_right before List.mem_cons_self
  · intro h
    obtain ⟨before, after, rfl⟩ := List.append_of_mem h
    refine ⟨before, after, rfl, fun e he => bne_iff_ne.mpr ?_⟩
    rw [List.map_append, List.nodup_append] at distinct
    exact (distinct.2.2 e.1 (List.mem_map_of_mem he) key List.mem_cons_self).symm

end Entries

/-- Only tables in which no key stands twice are read. -/
def DocumentReader.Keyed (read : DocumentReader) : Prop :=
  ∀ text root, read text = some root → root.WellKeyed

theorem Value.wellKeyed_table_iff {origin : Origin} {entries : Entries} :
    (Value.table origin entries).WellKeyed ↔ entries.WellKeyed := by
  constructor
  · intro h
    cases h with
    | table _ distinct each => exact ⟨distinct, each⟩
  · rintro ⟨distinct, each⟩
    exact .table origin distinct each

theorem Value.wellKeyed_array_iff {growing : Bool} {items : List Value} :
    (Value.array growing items).WellKeyed ↔ ∀ v ∈ items, v.WellKeyed := by
  constructor
  · intro h
    cases h with
    | array _ each => exact each
  · exact .array growing

namespace Entries

/-- A change of a table that keeps its keys distinct. -/
def Safe (f : Entries → Option Entries) : Prop :=
  ∀ ⦃before after⦄, f before = some after → before.WellKeyed → after.WellKeyed

/-- A change of the value under a key, where there is one, that keeps keys distinct inside it. -/
def SafeValue (f : Option Value → Option Value) : Prop :=
  ∀ ⦃before after⦄, f before = some after → (∀ v ∈ before, v.WellKeyed) → after.WellKeyed

theorem mem_keys_of_update {key : String} {f : Option Value → Option Value}
    {before after : Entries} (h : before.update key f = some after) {k : String}
    (hk : k ∈ after.map Prod.fst) : k = key ∨ k ∈ before.map Prod.fst := by
  induction before generalizing after with
  | nil =>
    obtain ⟨v, -, rfl⟩ := Option.map_eq_some_iff.mp h
    exact .inl (List.mem_singleton.mp hk)
  | cons e rest ih =>
    unfold update at h
    split at h
    · obtain ⟨v, -, rfl⟩ := Option.map_eq_some_iff.mp h
      exact .inr hk
    · obtain ⟨tail, htail, rfl⟩ := Option.map_eq_some_iff.mp h
      rcases List.mem_cons.mp hk with rfl | hk
      · exact .inr List.mem_cons_self
      · exact (ih htail hk).imp_right (List.mem_cons_of_mem _)

theorem update_safe {key : String} {f : Option Value → Option Value} (hf : SafeValue f) :
    Safe (update key f) := by
  intro before
  induction before with
  | nil =>
    intro after h _
    obtain ⟨v, hv, rfl⟩ := Option.map_eq_some_iff.mp h
    refine ⟨List.pairwise_singleton _ _, fun e he => ?_⟩
    obtain rfl := List.mem_singleton.mp he
    exact hf hv fun _ hnone => nomatch hnone
  | cons e rest ih =>
    obtain ⟨k, old⟩ := e
    rintro after h ⟨distinct, each⟩
    obtain ⟨fresh, distinctRest⟩ := List.nodup_cons.mp distinct
    have eachRest : ∀ e ∈ rest, e.2.WellKeyed := fun e he => each e (List.mem_cons_of_mem _ he)
    unfold update at h
    split at h
    next =>
      obtain ⟨v, hv, rfl⟩ := Option.map_eq_some_iff.mp h
      refine ⟨distinct, List.forall_mem_cons.mpr ⟨hf hv fun w hw => ?_, eachRest⟩⟩
      obtain rfl := Option.some.inj hw
      exact each _ List.mem_cons_self
    next hne =>
      obtain ⟨tail, htail, rfl⟩ := Option.map_eq_some_iff.mp h
      obtain ⟨distinctTail, eachTail⟩ := ih htail ⟨distinctRest, eachRest⟩
      have freshTail : k ∉ tail.map Prod.fst := fun hk =>
        (mem_keys_of_update htail hk).elim hne fresh
      exact ⟨List.nodup_cons.mpr ⟨freshTail, distinctTail⟩,
        List.forall_mem_cons.mpr ⟨each _ List.mem_cons_self, eachTail⟩⟩

theorem descend_safe {dotted : Bool} {f : Origin → Entries → Option Entries}
    (hf : ∀ origin, Safe (f origin)) (path : List String) :
    ∀ origin, Safe (descend dotted f path origin) := by
  induction path with
  | nil => exact hf
  | cons key path ih =>
    intro origin entries changed hchanged
    unfold descend at hchanged
    refine update_safe (fun before after h hbefore => ?_) hchanged
    split at h
    next =>
      obtain ⟨inner, hinner, rfl⟩ := Option.map_eq_some_iff.mp h
      exact Value.wellKeyed_table_iff.mpr (ih _ hinner .nil)
    next =>
      split at h
      · cases h
      · obtain ⟨inner, hinner, rfl⟩ := Option.map_eq_some_iff.mp h
        exact Value.wellKeyed_table_iff.mpr
          (ih _ hinner (Value.wellKeyed_table_iff.mp (hbefore _ rfl)))
    next items =>
      have each := Value.wellKeyed_array_iff.mp (hbefore _ rfl)
      split at h
      next hlast =>
        obtain ⟨inner, hinner, rfl⟩ := Option.map_eq_some_iff.mp h
        have hopened := Value.wellKeyed_table_iff.mp (each _ (List.mem_of_getLast? hlast))
        refine Value.wellKeyed_array_iff.mpr fun v hv => ?_
        rcases List.mem_append.mp hv with hv | hv
        · exact each v (List.dropLast_subset _ hv)
        · obtain rfl := List.mem_singleton.mp hv
          exact Value.wellKeyed_table_iff.mpr (ih _ hinner hopened)
      next => cases h
    next => cases h

theorem assign_safe {path : List String} {key : String} {value : Value} {origin : Origin}
    (hv : value.WellKeyed) : Safe (assign path key value origin) := by
  refine descend_safe (fun parent before after h => ?_) path origin
  split at h
  · cases h
  · refine update_safe (fun old new hnew _ => ?_) h
    split at hnew
    · obtain rfl := Option.some.inj hnew
      exact hv
    · cases hnew

theorem assignUnder_safe {current path : List String} {key : String} {value : Value}
    (hv : value.WellKeyed) : Safe (assignUnder current path key value) :=
  descend_safe (fun _ => assign_safe hv) current .implied

theorem openTable_safe {parents : List String} {key : String} : Safe (openTable parents key) := by
  refine descend_safe (fun _ => update_safe fun old new hnew hold => ?_) parents .implied
  split at hnew
  · obtain rfl := Option.some.inj hnew
    exact Value.wellKeyed_table_iff.mpr .nil
  · obtain rfl := Option.some.inj hnew
    exact Value.wellKeyed_table_iff.mpr (Value.wellKeyed_table_iff.mp (hold _ rfl))
  · cases hnew

theorem openElement_safe {parents : List String} {key : String} :
    Safe (openElement parents key) := by
  have opened : (Value.table .header []).WellKeyed := Value.wellKeyed_table_iff.mpr .nil
  refine descend_safe (fun _ => update_safe fun old new hnew hold => ?_) parents .implied
  split at hnew
  · obtain rfl := Option.some.inj hnew
    exact Value.wellKeyed_array_iff.mpr (List.forall_mem_singleton.mpr opened)
  · obtain rfl := Option.some.inj hnew
    refine Value.wellKeyed_array_iff.mpr (List.forall_mem_append.mpr
      ⟨Value.wellKeyed_array_iff.mp (hold _ rfl), List.forall_mem_singleton.mpr opened⟩)
  · cases hnew

end Entries

section Readers

variable {α β : Type} {P : α → Prop} {Q : β → Prop}

/-- What a reader gives, where it gives something, has a property. -/
def Yields (P : α → Prop) (r : Reader α) : Prop :=
  ∀ ⦃cs a rest⦄, r.run cs = some (a, rest) → P a

theorem Yields.pure {a : α} (h : P a) : Yields P (pure a) := by
  intro cs b rest hb
  obtain rfl := congrArg Prod.fst (Option.some.inj hb)
  exact h

theorem Yields.failure : Yields P failure := fun _ _ _ h => nomatch h

theorem Yields.bind {r : Reader α} {f : α → Reader β} (hr : Yields P r)
    (hf : ∀ a, P a → Yields Q (f a)) : Yields Q (r >>= f) := by
  intro cs b rest h
  rw [StateT.run_bind] at h
  obtain ⟨⟨a, mid⟩, ha, hb⟩ := Option.bind_eq_some_iff.mp h
  exact hf a (hr ha) hb

/-- Whatever the first reader gives. -/
theorem Yields.after {r : Reader α} {f : α → Reader β} (hf : ∀ a, Yields Q (f a)) :
    Yields Q (r >>= f) :=
  Yields.bind (P := fun _ => True) (fun _ _ _ _ => trivial) fun a _ => hf a

theorem Yields.lift {o : Option α} (h : ∀ a, o = some a → P a) : Yields P (liftM o : Reader α) := by
  intro cs a rest ha
  obtain ⟨b, hb, hab⟩ := Option.bind_eq_some_iff.mp ha
  obtain rfl := congrArg Prod.fst (Option.some.inj hab)
  exact h _ hb

/-- A value without quotes has no parts. -/
theorem scalar?_wellKeyed {text : List Char} {v : Value} (h : scalar? text = some v) :
    v.WellKeyed := by
  unfold scalar? number? basedInteger? integer? float? dateTime? at h
  repeat' split at h
  all_goals cases h
  all_goals constructor

theorem scalar_yields : Yields Value.WellKeyed scalar := by
  unfold scalar
  refine Yields.after fun text => ?_
  split
  exact Yields.after fun _ => Yields.lift fun v => scalar?_wellKeyed

theorem simpleValue_yields : Yields Value.WellKeyed simpleValue := by
  unfold simpleValue
  refine Yields.after fun text => ?_
  split
  · exact Yields.after fun text => Yields.pure (.string text)
  · exact Yields.after fun text => Yields.pure (.string text)
  · exact scalar_yields

theorem arrayItems_yields {item : Reader Value} (hitem : Yields Value.WellKeyed item)
    (bound : Nat) : Yields (fun items => ∀ v ∈ items, v.WellKeyed) (arrayItems item bound) := by
  induction bound with
  | zero => exact Yields.failure
  | succ bound ih =>
    unfold arrayItems
    refine Yields.after fun _ => Yields.after fun text => ?_
    split
    · exact Yields.after fun _ => Yields.pure fun v hv => nomatch hv
    · refine Yields.bind hitem fun first hfirst => ?_
      refine Yields.after fun _ => Yields.after fun text => ?_
      split
      · exact Yields.after fun _ => Yields.bind ih fun others hothers =>
          Yields.pure (List.forall_mem_cons.mpr ⟨hfirst, hothers⟩)
      · exact Yields.after fun _ => Yields.pure (List.forall_mem_singleton.mpr hfirst)
      · exact Yields.failure

theorem assignment_yields {skipGap : Reader Unit} {value : Reader Value}
    (hvalue : Yields Value.WellKeyed value) :
    Yields (fun a => a.2.2.WellKeyed) (assignment skipGap value) := by
  unfold assignment
  refine Yields.after fun key => ?_
  split
  refine Yields.after fun _ => Yields.after fun _ => Yields.after fun _ => ?_
  exact Yields.bind hvalue fun v hv => Yields.pure hv

theorem inlineEntries_yields {value : Reader Value} (hvalue : Yields Value.WellKeyed value)
    (bound : Nat) : ∀ {entries : Entries}, entries.WellKeyed →
      Yields Entries.WellKeyed (inlineEntries value bound entries) := by
  induction bound with
  | zero => exact fun _ => Yields.failure
  | succ bound ih =>
    intro entries hentries
    unfold inlineEntries
    refine Yields.after fun _ => Yields.after fun text => ?_
    split
    · exact Yields.after fun _ => Yields.pure hentries
    · refine Yields.bind (assignment_yields hvalue) fun ⟨path, key, v⟩ hv => ?_
      refine Yields.bind (Yields.lift fun after h => Entries.assign_safe hv h hentries)
        fun after hafter => ?_
      refine Yields.after fun _ => Yields.after fun text => ?_
      split
      · exact Yields.after fun _ => ih hafter
      · exact Yields.after fun _ => Yields.pure hafter
      · exact Yields.failure

theorem value_yields (depth : Nat) : Yields Value.WellKeyed (value depth) := by
  induction depth with
  | zero => exact simpleValue_yields
  | succ depth ih =>
    unfold value
    refine Yields.after fun text => ?_
    split
    · exact Yields.after fun _ => Yields.bind (arrayItems_yields ih _) fun items hitems =>
        Yields.pure (Value.wellKeyed_array_iff.mpr hitems)
    · exact Yields.after fun _ => Yields.bind (inlineEntries_yields ih _ .nil)
        fun entries hentries => Yields.pure (Value.wellKeyed_table_iff.mpr hentries)
    · exact simpleValue_yields

theorem statement_yields {d : Document} (hd : d.root.WellKeyed) :
    Yields (fun d => d.root.WellKeyed) (statement d) := by
  unfold statement
  have skipped : Yields (fun d => d.root.WellKeyed) (do lineEnd; return d) :=
    Yields.after fun _ => Yields.pure hd
  refine Yields.after fun _ => Yields.after fun text => ?_
  split
  · exact skipped
  · exact skipped
  · exact skipped
  · exact skipped
  · refine Yields.after fun _ => Yields.after fun _ => Yields.after fun key => ?_
    split
    refine Yields.after fun _ => Yields.after fun _ => Yields.after fun _ => ?_
    exact Yields.bind (Yields.lift fun root h => Entries.openElement_safe h hd)
      fun root hroot => Yields.pure hroot
  · refine Yields.after fun _ => Yields.after fun _ => Yields.after fun key => ?_
    split
    refine Yields.after fun _ => Yields.after fun _ => ?_
    exact Yields.bind (Yields.lift fun root h => Entries.openTable_safe h hd)
      fun root hroot => Yields.pure hroot
  · refine Yields.bind (assignment_yields (value_yields nestingLimit)) fun ⟨path, key, v⟩ hv => ?_
    refine Yields.after fun _ => ?_
    exact Yields.bind (Yields.lift fun root h => Entries.assignUnder_safe hv h hd)
      fun root hroot => Yields.pure hroot

theorem statements_yields (bound : Nat) : ∀ {d : Document}, d.root.WellKeyed →
    Yields (fun d => d.root.WellKeyed) (statements bound d) := by
  induction bound with
  | zero => exact fun _ => Yields.failure
  | succ bound ih =>
    intro d hd
    unfold statements
    refine Yields.after fun text => ?_
    split
    · exact Yields.pure hd
    · exact Yields.bind (statement_yields hd) fun next hnext => ih hnext

end Readers

theorem parse?_keyed : DocumentReader.Keyed parse? := by
  intro text root h
  obtain ⟨⟨d, rest⟩, hd, rfl⟩ := Option.map_eq_some_iff.mp h
  exact statements_yields _ .nil hd

end NextBoot.Toml
