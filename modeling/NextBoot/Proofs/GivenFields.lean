import Mathlib.Data.List.Nodup
import Mathlib.Data.List.Pairwise
import Mathlib.Data.String.Basic
import NextBoot.Proofs.Outcome
import NextBoot.Proofs.Toml.DistinctKeys
import NextBoot.Settings

/-! Reading a record from a document value. Each field is set by what is given for it alone, so the
order in which a table gives them does not matter. -/
namespace NextBoot.Settings

open Toml (Value)
open Outcome (Exchange foldlM_cons_eq_ok_iff foldlM_eq_ok_iff_of_perm)

/-- What a value gives for a field: a table by its keys, an array by the order of the fields. -/
def given? (names : List String) (v : Value) (name : String) : Option Value :=
  match v with
  | .table _ entries => entries.lookup name
  | .array _ items => (names.zip items).lookup name
  | _ => none

/-- A value that fields can be taken from: a table without unknown keys, or an array. -/
def GivesFields (names : List String) : Value → Prop
  | .table _ entries => ∀ e ∈ entries, e.1 ∈ names
  | .array _ _ => True
  | _ => False

/-- A field is what the value given for it means, and as before if none is given. -/
def Reads {α : Type} (Means : Value → α → Prop) (before : α) (given : Option Value) (after : α) :
    Prop :=
  match given with
  | some v => Means v after
  | none => after = before

section Parts

variable {σ α β : Type}

/-- A part of a record. -/
structure Part (σ α : Type) where
  get : σ → α
  put : α → σ → σ
  put_get (s : σ) : put (get s) s = s

/-- Two parts that do not overlap. -/
structure Part.Apart (p : Part σ α) (q : Part σ β) : Prop where
  put_comm (a : α) (b : β) (s : σ) : p.put a (q.put b s) = q.put b (p.put a s)
  get_put (b : β) (s : σ) : p.get (q.put b s) = p.get s
  get_put' (a : α) (s : σ) : q.get (p.put a s) = q.get s

/-- Two parts as one. -/
def Part.both (p : Part σ α) (q : Part σ β) : Part σ (α × β) where
  get s := (p.get s, q.get s)
  put a s := q.put a.2 (p.put a.1 s)
  put_get s := by rw [p.put_get, q.put_get]

/-- The field replaces a part of the record by what a value means where the part is `before`. -/
def Field.Sets (f : Field σ) (p : Part σ α) (Means : (before : α) → Value → α → Prop) : Prop :=
  ∀ ⦃v⦄, v.WellKeyed → ∀ s s', f.set v s = .ok s' ↔ ∃ a, Means (p.get s) v a ∧ p.put a s = s'

/-- Neither field sees or changes what the other sets. -/
def Field.Independent (f g : Field σ) : Prop :=
  ∀ ⦃v w⦄, v.WellKeyed → w.WellKeyed → ∀ s s',
    (f.set v s >>= g.set w) = .ok s' ↔ (g.set w s >>= f.set v) = .ok s'

instance : Std.Symm (@Field.Independent σ) :=
  ⟨fun _ _ h _ _ hv hw s s' => (h hw hv s s').symm⟩

variable {f g : Field σ} {p : Part σ α} {q : Part σ β} {M : α → Value → α → Prop}
  {N : β → Value → β → Prop}

/-- A field that replaces a part by what a value decodes to. -/
theorem Field.sets_of_decode {decode : Value → Except DocumentError α} {Means : Value → α → Prop}
    (hset : ∀ v s, f.set v s = do return p.put (← decode v) s)
    (hdecode : ∀ v, v.WellKeyed → ∀ a, decode v = .ok a ↔ Means v a) : f.Sets p fun _ => Means := by
  intro v hv s s'
  rw [hset, Outcome.bind_eq_ok_iff]
  refine exists_congr fun a => and_congr (hdecode v hv a) ?_
  show Except.ok (p.put a s) = Except.ok s' ↔ _
  rw [Except.ok.injEq]

theorem Field.Sets.bind_eq_ok_iff (hf : f.Sets p M) (hg : g.Sets q N) (h : p.Apart q) {v w : Value}
    (hv : v.WellKeyed) (hw : w.WellKeyed) {s s' : σ} :
    (f.set v s >>= g.set w) = .ok s' ↔
      ∃ a b, M (p.get s) v a ∧ N (q.get s) w b ∧ q.put b (p.put a s) = s' := by
  rw [Outcome.bind_eq_ok_iff]
  constructor
  · rintro ⟨mid, hmid, hlast⟩
    obtain ⟨a, ha, rfl⟩ := (hf hv s mid).mp hmid
    obtain ⟨b, hb, hs⟩ := (hg hw _ s').mp hlast
    rw [h.get_put'] at hb
    exact ⟨a, b, ha, hb, hs⟩
  · rintro ⟨a, b, ha, hb, hs⟩
    refine ⟨p.put a s, (hf hv s _).mpr ⟨a, ha, rfl⟩, (hg hw _ s').mpr ⟨b, ?_, hs⟩⟩
    rw [h.get_put']
    exact hb

theorem Field.Sets.congr {M' : α → Value → α → Prop} (hf : f.Sets p M)
    (h : ∀ before v after, M before v after ↔ M' before v after) : f.Sets p M' := by
  intro v keyed s s'
  rw [hf keyed s s']
  exact exists_congr fun after => and_congr_left fun _ => h _ v after

theorem Part.Apart.symm (h : p.Apart q) : q.Apart p :=
  ⟨fun b a s => (h.put_comm a b s).symm, h.get_put', h.get_put⟩

theorem Field.Sets.independent (hf : f.Sets p M) (hg : g.Sets q N) (h : p.Apart q) :
    f.Independent g := by
  intro v w hv hw s s'
  rw [hf.bind_eq_ok_iff hg h hv hw, hg.bind_eq_ok_iff hf h.symm hw hv]
  constructor
  · rintro ⟨a, b, ha, hb, rfl⟩
    exact ⟨b, a, hb, ha, h.put_comm a b s⟩
  · rintro ⟨b, a, hb, ha, rfl⟩
    exact ⟨a, b, ha, hb, (h.put_comm a b s).symm⟩

end Parts

section InFieldOrder

variable {σ α : Type} {given : String → Option Value} {fields : List (Field σ)} {f : Field σ}
  {s s' : σ}

def Field.setGiven (f : Field σ) (given : Option Value) (s : σ) : Except DocumentError σ :=
  match given with
  | some v => f.set v s
  | none => .ok s

/-- Set each field, in their order, for which a value is given. -/
def setGiven (given : String → Option Value) (fields : List (Field σ)) (s : σ) :
    Except DocumentError σ :=
  fields.foldlM (fun s f => f.setGiven (given f.name) s) s

theorem setGiven_cons : setGiven given (f :: fields) s =
    f.setGiven (given f.name) s >>= setGiven given fields :=
  List.foldlM_cons

theorem setGiven_cons_eq_ok_iff : setGiven given (f :: fields) s = .ok s' ↔
    ∃ mid, f.setGiven (given f.name) s = .ok mid ∧ setGiven given fields mid = .ok s' :=
  foldlM_cons_eq_ok_iff

theorem setGiven_congr {given' : String → Option Value}
    (h : ∀ f ∈ fields, given f.name = given' f.name) :
    setGiven given fields s = setGiven given' fields s := by
  induction fields generalizing s with
  | nil => rfl
  | cons f fields ih =>
    obtain ⟨hf, hfields⟩ := List.forall_mem_cons.mp h
    rw [setGiven_cons, setGiven_cons, hf]
    exact congrArg _ (funext fun mid => ih hfields)

theorem setGiven_of_none (h : ∀ f ∈ fields, given f.name = none) :
    setGiven given fields s = .ok s := by
  induction fields with
  | nil => rfl
  | cons f fields ih =>
    obtain ⟨hf, hfields⟩ := List.forall_mem_cons.mp h
    rw [setGiven_cons_eq_ok_iff, hf]
    exact ⟨s, rfl, ih hfields⟩

theorem Field.Sets.setGiven_eq_ok_iff {p : Part σ α} {M : α → Value → α → Prop} (h : f.Sets p M)
    {v? : Option Value} (hv : ∀ v ∈ v?, v.WellKeyed) :
    f.setGiven v? s = .ok s' ↔ ∃ a, Reads (M (p.get s)) (p.get s) v? a ∧ p.put a s = s' := by
  cases v? with
  | some v => exact h (hv v rfl) s s'
  | none =>
    constructor
    · intro hs
      obtain rfl := Except.ok.inj hs
      exact ⟨_, rfl, p.put_get s⟩
    · rintro ⟨_, rfl, rfl⟩
      rw [p.put_get]
      rfl

end InFieldOrder

section Decoding

variable {σ : Type} {fields : List (Field σ)} {s s' : σ}

/-- By induction on the fields; their names are distinct, so what is given for one is not looked at
for another. -/
theorem decodeFields_array (distinct : (fields.map (·.name)).Nodup) (growing : Bool)
    (items : List Value) : decodeFields fields (.array growing items) s =
      setGiven (given? (fields.map (·.name)) (.array growing items)) fields s := by
  show (fields.zip items).foldlM (fun s e => e.1.set e.2 s) s =
    setGiven (fun name => ((fields.map (·.name)).zip items).lookup name) fields s
  induction fields generalizing items s with
  | nil => rfl
  | cons f fields ih =>
    obtain ⟨fresh, distinct⟩ := List.nodup_cons.mp distinct
    cases items with
    | nil => exact (setGiven_of_none fun _ _ => rfl).symm
    | cons v items =>
      rw [List.map_cons, List.zip_cons_cons, List.zip_cons_cons, List.foldlM_cons, setGiven_cons,
        List.lookup_cons_self]
      refine congrArg _ (funext fun mid => (ih distinct items).trans (setGiven_congr fun g hg => ?_))
      have hne : g.name ≠ f.name := fun h => fresh (List.mem_map.mpr ⟨g, hg, h⟩)
      rw [List.lookup_cons, beq_false_of_ne hne]

/-- Set the field that a key names. -/
def setNamed (fields : List (Field σ)) (s : σ) (e : String × Value) : Except DocumentError σ :=
  match fields.find? (·.name = e.1) with
  | some f => f.set e.2 s
  | none => .error (.unknownField e.1 (fields.map (·.name)))

theorem decodeFields_table (origin : Toml.Origin) (entries : Toml.Entries) :
    decodeFields fields (.table origin entries) s =
      (Ascending.ofList (fun a b => decide (a.1 < b.1)) entries).foldlM (setNamed fields) s :=
  rfl

theorem setNamed_of_mem (distinct : (fields.map (·.name)).Nodup) {f : Field σ} (hf : f ∈ fields)
    (v : Value) : setNamed fields s (f.name, v) = f.set v s := by
  have hfind : fields.find? (·.name = f.name) = some f := by
    induction fields with
    | nil => cases hf
    | cons g fields ih =>
      obtain ⟨fresh, distinct⟩ := List.nodup_cons.mp distinct
      rcases List.mem_cons.mp hf with rfl | hf
      · exact List.find?_cons_of_pos (decide_eq_true rfl)
      · have hne : g.name ≠ f.name := fun h => fresh (List.mem_map.mpr ⟨f, hf, h.symm⟩)
        rw [List.find?_cons_of_neg (by simpa using hne)]
        exact ih distinct hf
  simp only [setNamed, hfind]

theorem mem_of_setNamed {e : String × Value} (h : setNamed fields s e = .ok s') :
    e.1 ∈ fields.map (·.name) := by
  unfold setNamed at h
  split at h
  next f hf =>
    have hname := List.find?_some hf
    exact List.mem_map.mpr ⟨f, List.mem_of_find?_eq_some hf, of_decide_eq_true hname⟩
  next => cases h

theorem mem_of_foldlM_setNamed {entries : Toml.Entries}
    (h : entries.foldlM (setNamed fields) s = .ok s') :
    ∀ e ∈ entries, e.1 ∈ fields.map (·.name) := by
  induction entries generalizing s with
  | nil => exact fun _ he => nomatch he
  | cons e entries ih =>
    obtain ⟨mid, hmid, hrest⟩ := foldlM_cons_eq_ok_iff.mp h
    exact List.forall_mem_cons.mpr ⟨mem_of_setNamed hmid, ih hrest⟩

/-- The entries that `fields` name, in the order of the fields. -/
def inFieldOrder (entries : Toml.Entries) (fields : List (Field σ)) : Toml.Entries :=
  fields.filterMap fun f => (entries.lookup f.name).map (f.name, ·)

theorem foldlM_inFieldOrder (distinct : (fields.map (·.name)).Nodup) (entries : Toml.Entries)
    {chosen : List (Field σ)} (h : chosen ⊆ fields) :
    (inFieldOrder entries chosen).foldlM (setNamed fields) s =
      setGiven (fun name => entries.lookup name) chosen s := by
  induction chosen generalizing s with
  | nil => rfl
  | cons f rest ih =>
    obtain ⟨hf, hrest⟩ := List.cons_subset.mp h
    rw [setGiven_cons]
    unfold inFieldOrder
    rw [List.filterMap_cons]
    cases entries.lookup f.name with
    | none => exact ih hrest
    | some v =>
      show (setNamed fields s (f.name, v) >>= _) = (f.set v s >>= _)
      rw [setNamed_of_mem distinct hf]
      exact congrArg _ (funext fun mid => ih hrest)

theorem keys_inFieldOrder_sublist (entries : Toml.Entries) :
    ((inFieldOrder entries fields).map Prod.fst).Sublist (fields.map (·.name)) := by
  induction fields with
  | nil => exact .slnil
  | cons f fields ih =>
    unfold inFieldOrder
    rw [List.filterMap_cons]
    cases entries.lookup f.name with
    | none => exact ih.cons _
    | some v => exact ih.cons_cons _

theorem mem_inFieldOrder_iff {entries : Toml.Entries} {key : String} {v : Value} :
    (key, v) ∈ inFieldOrder entries fields ↔
      key ∈ fields.map (·.name) ∧ entries.lookup key = some v := by
  unfold inFieldOrder
  rw [List.mem_filterMap]
  constructor
  · rintro ⟨f, hf, he⟩
    obtain ⟨w, hw, he⟩ := Option.map_eq_some_iff.mp he
    cases he
    exact ⟨List.mem_map_of_mem hf, hw⟩
  · rintro ⟨hkey, hlookup⟩
    obtain ⟨f, hf, rfl⟩ := List.mem_map.mp hkey
    exact ⟨f, hf, Option.map_eq_some_iff.mpr ⟨v, hlookup, rfl⟩⟩

theorem inFieldOrder_perm (distinct : (fields.map (·.name)).Nodup) {entries : Toml.Entries}
    (keyed : entries.WellKeyed) (known : ∀ e ∈ entries, e.1 ∈ fields.map (·.name)) :
    entries.Perm (inFieldOrder entries fields) := by
  have distinct' : ((inFieldOrder entries fields).map Prod.fst).Nodup :=
    (keys_inFieldOrder_sublist entries).nodup distinct
  refine (List.perm_ext_iff_of_nodup keyed.distinct.of_map distinct'.of_map).mpr ?_
  rintro ⟨key, v⟩
  rw [mem_inFieldOrder_iff, Toml.Entries.lookup_eq_some_iff keyed.distinct]
  exact ⟨fun he => ⟨known _ he, he⟩, And.right⟩

/-- Keys that name different fields can be taken in any order. -/
theorem exchange_setNamed (distinct : (fields.map (·.name)).Nodup)
    (independent : fields.Pairwise Field.Independent) {e e' : String × Value}
    (he : e.1 ∈ fields.map (·.name)) (he' : e'.1 ∈ fields.map (·.name)) (hne : e.1 ≠ e'.1)
    (hv : e.2.WellKeyed) (hv' : e'.2.WellKeyed) : Exchange (setNamed fields) e e' := by
  obtain ⟨key, v⟩ := e
  obtain ⟨key', v'⟩ := e'
  obtain ⟨f, hf, rfl⟩ := List.mem_map.mp he
  obtain ⟨g, hg, rfl⟩ := List.mem_map.mp he'
  have hfg : f ≠ g := fun h => hne (congrArg Field.name h)
  intro s s'
  simp only [setNamed_of_mem distinct hf, setNamed_of_mem distinct hg]
  exact independent.forall hf hg hfg hv hv' s s'

theorem decodeFields_table_eq_ok_iff (distinct : (fields.map (·.name)).Nodup)
    (independent : fields.Pairwise Field.Independent) {origin : Toml.Origin}
    {entries : Toml.Entries} (keyed : entries.WellKeyed) :
    decodeFields fields (.table origin entries) s = .ok s' ↔
      (∀ e ∈ entries, e.1 ∈ fields.map (·.name)) ∧
        setGiven (fun name => entries.lookup name) fields s = .ok s' := by
  have apart : entries.Pairwise fun e e' => e.1 ≠ e'.1 := List.pairwise_map.mp keyed.distinct
  have sorted : (Ascending.ofList (fun a b => decide (a.1 < b.1)) entries).Perm entries :=
    Ascending.ofList_perm (apart.imp fun hne => by simpa using lt_or_gt_of_ne hne)
  rw [decodeFields_table]
  -- Unknown keys fail in any order; without them the entries can be put in the order of the fields.
  by_cases known : ∀ e ∈ entries, e.1 ∈ fields.map (·.name)
  · have exchange : entries.Pairwise (Exchange (setNamed fields)) :=
      apart.imp_of_mem fun he he' hne => exchange_setNamed distinct independent (known _ he)
        (known _ he') hne (keyed.each _ he) (keyed.each _ he')
    have hsorted := (sorted.pairwise_iff Exchange.symm).mpr exchange
    rw [foldlM_eq_ok_iff_of_perm sorted hsorted,
      foldlM_eq_ok_iff_of_perm (inFieldOrder_perm distinct keyed known) exchange,
      foldlM_inFieldOrder distinct entries fun _ => id]
    exact (and_iff_right known).symm
  · have unknown : ¬∀ e ∈ Ascending.ofList (fun a b => decide (a.1 < b.1)) entries,
        e.1 ∈ fields.map (·.name) := by
      simpa only [sorted.mem_iff] using known
    exact ⟨fun h => absurd (mem_of_foldlM_setNamed h) unknown, fun h => absurd h.1 known⟩

/-- Fields are taken from a value as if one by one, in their order, each from what is given for it
alone. -/
theorem decodeFields_eq_ok_iff (distinct : (fields.map (·.name)).Nodup)
    (independent : fields.Pairwise Field.Independent) {v : Value} (keyed : v.WellKeyed) :
    decodeFields fields v s = .ok s' ↔ GivesFields (fields.map (·.name)) v ∧
      setGiven (given? (fields.map (·.name)) v) fields s = .ok s' := by
  cases v with
  | table origin entries =>
    exact decodeFields_table_eq_ok_iff distinct independent (Value.wellKeyed_table_iff.mp keyed)
  | array growing items =>
    rw [decodeFields_array distinct]
    exact (and_iff_right trivial).symm
  | _ => exact ⟨nofun, fun h => h.1.elim⟩

end Decoding

section Pairs

variable {σ α β : Type} {f g : Field σ} {p : Part σ α} {q : Part σ β} {M : α → Value → α → Prop}
  {N : β → Value → β → Prop} {v : Value} {s s' : σ}

theorem wellKeyed_of_given? (keyed : v.WellKeyed) (names : List String) (name : String) :
    ∀ w ∈ given? names v name, w.WellKeyed := by
  intro w hw
  cases v with
  | table origin entries =>
    have hkeyed := Value.wellKeyed_table_iff.mp keyed
    exact hkeyed.each _ ((Toml.Entries.lookup_eq_some_iff hkeyed.distinct).mp hw)
  | array growing items =>
    obtain ⟨before, after, hzip, -⟩ := List.lookup_eq_some_iff.mp hw
    have hmem : (name, w) ∈ names.zip items := hzip ▸ List.mem_append_right before List.mem_cons_self
    exact Value.wellKeyed_array_iff.mp keyed w (List.of_mem_zip hmem).2
  | _ => cases hw

/-- A record of two parts is read part by part. -/
theorem decodeFields_pair_eq_ok_iff (hf : f.Sets p M) (hg : g.Sets q N) (apart : p.Apart q)
    (hne : f.name ≠ g.name) (keyed : v.WellKeyed) :
    decodeFields [f, g] v s = .ok s' ↔ GivesFields [f.name, g.name] v ∧
      ∃ a b, Reads (M (p.get s)) (p.get s) (given? [f.name, g.name] v f.name) a ∧
        Reads (N (q.get s)) (q.get s) (given? [f.name, g.name] v g.name) b ∧
        q.put b (p.put a s) = s' := by
  have distinct : ([f, g].map (·.name)).Nodup := by simpa using hne
  have independent : [f, g].Pairwise Field.Independent := by simpa using hf.independent hg apart
  have hgiven := wellKeyed_of_given? keyed [f.name, g.name]
  rw [decodeFields_eq_ok_iff distinct independent keyed]
  refine and_congr_right fun _ => ?_
  simp only [setGiven_cons_eq_ok_iff, List.map_cons, List.map_nil,
    hf.setGiven_eq_ok_iff (hgiven f.name), hg.setGiven_eq_ok_iff (hgiven g.name)]
  constructor
  · rintro ⟨_, ⟨a, ha, rfl⟩, _, ⟨b, hb, rfl⟩, hs⟩
    rw [apart.get_put'] at hb
    exact ⟨a, b, ha, hb, Except.ok.inj hs⟩
  · rintro ⟨a, b, ha, hb, rfl⟩
    refine ⟨_, ⟨a, ha, rfl⟩, _, ⟨b, ?_, rfl⟩, rfl⟩
    rw [apart.get_put']
    exact hb

/-- A section of two fields is itself a field that sets both parts. -/
theorem Field.Sets.both (hf : f.Sets p M) (hg : g.Sets q N) (apart : p.Apart q)
    (hne : f.name ≠ g.name) (name : String) :
    Field.Sets ⟨name, decodeFields [f, g]⟩ (p.both q) fun before v after =>
      GivesFields [f.name, g.name] v ∧
        Reads (M before.1) before.1 (given? [f.name, g.name] v f.name) after.1 ∧
        Reads (N before.2) before.2 (given? [f.name, g.name] v g.name) after.2 := by
  intro v keyed s s'
  rw [decodeFields_pair_eq_ok_iff hf hg apart hne keyed]
  constructor
  · rintro ⟨hkeys, a, b, ha, hb, hs⟩
    exact ⟨(a, b), ⟨hkeys, ha, hb⟩, hs⟩
  · rintro ⟨⟨a, b⟩, ⟨hkeys, ha, hb⟩, hs⟩
    exact ⟨hkeys, a, b, ha, hb, hs⟩

end Pairs

end NextBoot.Settings
