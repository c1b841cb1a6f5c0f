import NextBoot.Proofs.Firmware.FlagIndependence
import NextBoot.Proofs.Firmware.PromotionRun

/-! Broken boot variables keep nothing from being promoted. What is added to a store and is no entry,
or none that decodes, is passed over: the entries stay the same, and so does what promotion makes of
them. -/
namespace NextBoot.Firmware

/-- The content of no entry: too short for the attributes, or with no load option behind them. -/
def Broken (content : Bytes) : Prop :=
  content.length < Attributes.size ∨
    ∃ malformed, LoadOption.decode (content.drop Attributes.size) = .error malformed

/-- The index that the name of a file spells, in digits of either case. -/
def fileIndex? (file : Bytes) : Option UInt16 :=
  (variableName? .globalVariable file).bind bootIndex?

/-- No variable that is listed spells the index. -/
def Unspelled (s : VariableStore) (i : UInt16) : Prop :=
  ∀ names, s.list .globalVariable = .ok names → ∀ name ∈ names, bootIndex? name ≠ some i

def VariableStore.withFiles (s : VariableStore) (files : List (Bytes × Node)) : VariableStore :=
  { s with directory := files.foldl (fun d e => d.insert e.1 e.2) s.directory }

/-- What can be put into a store without being an entry of it. -/
inductive Overlooked (s : VariableStore) : Bytes → Node → Prop where
  | broken {file content : Bytes} {i : UInt16} (spells : fileIndex? file = some i)
    (free : Unspelled s i) (broken : Broken content) : Overlooked s file (.file content)
  | unrelated {file : Bytes} {node : Node} (order : file ≠ BootOrder.file)
    (spells : fileIndex? file = none) : Overlooked s file node

/-- Nothing but what is overlooked has been added. Calls to write are answered alike. -/
structure Cluttered (s t : VariableStore) : Prop where
  writable : t.writable = s.writable
  writes : t.writes = s.writes
  unlistable : t.directory.unlistable = s.directory.unlistable
  kept : ∀ file node, s.directory.get? file = some node → t.directory.get? file = some node
  added : ∀ file node, s.directory.get? file = none → t.directory.get? file = some node →
    Overlooked s file node

theorem HoldsEntry.not_broken {s : VariableStore} {name : String} {o : LoadOption} {content : Bytes}
    (holds : HoldsEntry s name o) (file : entryNode? s name = some (.file content)) :
    ¬Broken content := by
  obtain ⟨found, hfound, hsize, hdecode⟩ := holds
  obtain rfl : content = found := by simpa [file] using hfound
  rintro (hshort | ⟨malformed, hmalformed⟩)
  · exact absurd hsize (Nat.not_le.mpr hshort)
  · rw [hdecode] at hmalformed
    cases hmalformed

theorem fileIndex?_variableFile (name : String) :
    fileIndex? (variableFile .globalVariable name) = bootIndex? name := by
  rw [fileIndex?, variableName?_variableFile, Option.bind_some]

theorem Unspelled.not_holdsEntry {s : VariableStore} {i : UInt16} (free : Unspelled s i)
    (listable : s.directory.unlistable = none) (letters : Text.LetterCase) (o : LoadOption) :
    ¬HoldsEntry s (bootName letters i) o := by
  rintro ⟨content, hfile, -⟩
  have hlist : s.list .globalVariable = .ok _ := VariableStore.list_of_listable listable
  exact free _ hlist _ (VariableStore.mem_list hlist hfile) (bootIndex?_bootName letters i)

/-- The entries are ascending, so it is enough to know which there are. -/
theorem entries_ext {s t : VariableStore} {found found' : List (UInt16 × LoadOption)}
    (hs : (bootEntries s).value = .ok found) (ht : (bootEntries t).value = .ok found')
    (h : ∀ i o, (i, o) ∈ found ↔ (i, o) ∈ found') : found = found' := by
  have ascending {u : VariableStore} {l : List (UInt16 × LoadOption)}
      (hu : (bootEntries u).value = .ok l) : l.Pairwise (Order.Preimage Prod.fst (· < ·)) := by
    have hkeys := bootEntries_ascending hu
    rwa [List.pairwise_map] at hkeys
  exact (ascending hs).eq_of_mem_iff (ascending ht) fun e => h e.1 e.2

namespace Cluttered
variable {s t : VariableStore}

theorem none_of_none (clutter : Cluttered s t) {file : Bytes} (h : t.directory.get? file = none) :
    s.directory.get? file = none := by
  cases hs : s.directory.get? file with
  | none => rfl
  | some node =>
    rw [clutter.kept file node hs] at h
    cases h

/-- What is added under a name of an entry is broken, and shares the index with nothing before. -/
theorem entry_added (clutter : Cluttered s t) {letters : Text.LetterCase} {i : UInt16} {node : Node}
    (hs : entryNode? s (bootName letters i) = none)
    (ht : entryNode? t (bootName letters i) = some node) :
    Unspelled s i ∧ ∃ content, node = .file content ∧ Broken content := by
  have hindex := fileIndex?_variableFile (bootName letters i)
  rw [bootIndex?_bootName] at hindex
  cases clutter.added _ node hs ht with
  | broken spells free broken =>
    rw [hindex] at spells
    obtain rfl := Option.some.inj spells
    exact ⟨free, _, rfl, broken⟩
  | unrelated order spells =>
    rw [hindex] at spells
    cases spells

theorem holdsEntry_iff (clutter : Cluttered s t) (letters : Text.LetterCase) (i : UInt16)
    (o : LoadOption) :
    HoldsEntry t (bootName letters i) o ↔ HoldsEntry s (bootName letters i) o := by
  constructor
  · intro holds
    obtain ⟨content, hfile, hdecodes⟩ := id holds
    cases hs : entryNode? s (bootName letters i) with
    | none =>
      obtain ⟨-, broken, hnode, hbroken⟩ := clutter.entry_added hs hfile
      obtain rfl := Node.file.inj hnode
      exact absurd hbroken (holds.not_broken hfile)
    | some node =>
      obtain rfl : node = .file content :=
        Option.some.inj ((clutter.kept _ node hs).symm.trans hfile)
      exact ⟨content, hs, hdecodes⟩
  · rintro ⟨content, hfile, hdecodes⟩
    exact ⟨content, clutter.kept _ _ hfile, hdecodes⟩

/-- An entry under its lower case name is not hidden by what is added. -/
theorem entryNode?_eq_none_iff (clutter : Cluttered s t) (listable : s.directory.unlistable = none)
    {i : UInt16} {o : LoadOption} (holds : HoldsEntry s (bootName .lower i) o) :
    entryNode? t (bootName .upper i) = none ↔ entryNode? s (bootName .upper i) = none := by
  refine ⟨clutter.none_of_none, fun hs => ?_⟩
  cases ht : entryNode? t (bootName .upper i) with
  | none => rfl
  | some node =>
    obtain ⟨hfree, -⟩ := clutter.entry_added hs ht
    exact absurd holds (hfree.not_holdsEntry listable .lower o)

theorem bootEntries (clutter : Cluttered s t) :
    (bootEntries t).value = (bootEntries s).value := by
  cases hlist : s.directory.unlistable with
  | some errno =>
    rw [bootEntries_of_unlistable hlist,
      bootEntries_of_unlistable (clutter.unlistable.trans hlist)]
  | none =>
    obtain ⟨entries, hs⟩ := exists_bootEntries hlist
    obtain ⟨entries', ht⟩ := exists_bootEntries (clutter.unlistable.trans hlist)
    rw [hs, ht]
    congr 1
    apply entries_ext ht hs
    intro i o
    rw [mem_bootEntries_iff hs, mem_bootEntries_iff ht, clutter.holdsEntry_iff,
      clutter.holdsEntry_iff]
    apply or_congr_right
    exact and_congr_left (clutter.entryNode?_eq_none_iff hlist)

theorem order_file (clutter : Cluttered s t) :
    t.directory.get? BootOrder.file = s.directory.get? BootOrder.file := by
  have hindex : fileIndex? BootOrder.file = none :=
    (fileIndex?_variableFile BootOrder.variableName).trans bootIndex?_orderName
  cases ht : t.directory.get? BootOrder.file with
  | none => exact (clutter.none_of_none ht).symm
  | some node =>
    cases hs : s.directory.get? BootOrder.file with
    | some found => exact ht.symm.trans (clutter.kept _ found hs)
    | none =>
      cases clutter.added _ node hs ht with
      | broken spells free broken =>
        rw [hindex] at spells
        cases spells
      | unrelated order spells => exact absurd rfl order

theorem refl (s : VariableStore) : Cluttered s s := by
  refine ⟨rfl, rfl, rfl, fun _ _ h => h, ?_⟩
  intro file node habsent hpresent
  rw [habsent] at hpresent
  cases hpresent

theorem insert (clutter : Cluttered s t) {file : Bytes} {node : Node}
    (absent : s.directory.get? file = none) (overlooked : Overlooked s file node) :
    Cluttered s { t with directory := t.directory.insert file node } where
  writable := clutter.writable
  writes := clutter.writes
  unlistable := clutter.unlistable
  kept other found h := by
    have hne : other ≠ file := by
      rintro rfl
      rw [absent] at h
      cases h
    exact (Directory.get?_insert ..).trans ((if_neg hne).trans (clutter.kept other found h))
  added other found hs ht := by
    rw [Directory.get?_insert] at ht
    split at ht
    next heq =>
      obtain rfl := heq
      obtain rfl := Option.some.inj ht
      exact overlooked
    next => exact clutter.added other found hs ht

theorem withFiles (clutter : Cluttered s t) {files : List (Bytes × Node)}
    (overlooked : ∀ e ∈ files, s.directory.get? e.1 = none ∧ Overlooked s e.1 e.2) :
    Cluttered s (t.withFiles files) := by
  induction files generalizing t with
  | nil => exact clutter
  | cons e rest ih =>
    obtain ⟨⟨habsent, hfirst⟩, hrest⟩ := List.forall_mem_cons.mp overlooked
    exact ih (clutter.insert habsent hfirst) hrest

end Cluttered

/-- Whatever unrelated files and broken entries are added, if no entry had their indices, the same
entries are found, and promotion answers the same, writes the same order and touches nothing else. -/
theorem promote_of_cluttered {s t : VariableStore} (clutter : Cluttered s t) :
    (bootEntries t).value = (bootEntries s).value ∧
    ∀ description,
      (promote t description).value.1 = (promote s description).value.1 ∧
      (promote t description).value.2.directory.get? BootOrder.file =
        (promote s description).value.2.directory.get? BootOrder.file ∧
      ∀ file ≠ BootOrder.file,
        (promote t description).value.2.directory.get? file = t.directory.get? file := by
  refine ⟨clutter.bootEntries, fun description => ?_⟩
  have horder := clutter.order_file
  obtain ⟨hanswer, hstored⟩ := promote_related
    (fun t s => t.directory.get? BootOrder.file = s.directory.get? BootOrder.file) horder
    (BootOrder.read_congr horder) clutter.bootEntries
    (BootOrder.write_congr clutter.writable clutter.writes horder) description
  exact ⟨hanswer, hstored, (sameButOrder_promote t description).files⟩

/-- Each way of not decoding under a name of its own for one index, and a file of another owner. -/
def clutterFiles : List (Bytes × Node) :=
  [(variableFile .globalVariable "Boot00aF", .file [7, 0, 0]),
    (variableFile .globalVariable "Boot00AF",
      .file (variableContent BootOrder.attributes [1, 0, 0, 0, 0])),
    (variableFile .globalVariable "Boot00af",
      .file (variableContent BootOrder.attributes [1, 0, 0, 0, 0, 0, 0x54, 0])),
    (variableFile .globalVariable "Boot00Af",
      .file (variableContent BootOrder.attributes [1, 0, 0, 0, 0, 0, 0, 0xD8, 0, 0])),
    (variableFile ⟨1⟩ "Boot0001", .file [])]

theorem unspelled_smallStore : Unspelled smallStore 0xAF := by
  intro names list
  have hnames : smallStore.list .globalVariable =
      .ok ["Boot0001", "Boot0003", "Boot000a", "BootOrder"] := by decide +kernel
  obtain rfl := Except.ok.inj (hnames.symm.trans list)
  decide

theorem cluttered_smallStore : Cluttered smallStore (smallStore.withFiles clutterFiles) := by
  have spelled {name : String} {content : Bytes} (spells : bootIndex? name = some 0xAF)
      (broken : Broken content) :
      Overlooked smallStore (variableFile .globalVariable name) (.file content) :=
    .broken ((fileIndex?_variableFile name).trans spells) unspelled_smallStore broken
  apply (Cluttered.refl smallStore).withFiles
  simp only [clutterFiles, List.forall_mem_cons]
  refine ⟨⟨?_, spelled rfl (.inl ?_)⟩, ⟨?_, spelled rfl (.inr ⟨.tooShort 5, ?_⟩)⟩,
    ⟨?_, spelled rfl (.inr ⟨.unterminated, ?_⟩)⟩, ⟨?_, spelled rfl (.inr ⟨.illFormed, ?_⟩)⟩,
    ⟨?_, .unrelated ?_ ?_⟩, List.forall_mem_nil _⟩
  all_goals decide +kernel

theorem promote_cluttered_smallStore : Cluttered smallStore (smallStore.withFiles clutterFiles) ∧
    (promote (smallStore.withFiles clutterFiles) "Talos").value.1 = .ok ⟨[3, 1, 1, 7]⟩ := by
  obtain ⟨-, hpromote⟩ := promote_of_cluttered cluttered_smallStore
  obtain ⟨hanswer, -⟩ := hpromote "Talos"
  exact ⟨cluttered_smallStore, hanswer.trans (by decide +kernel)⟩

/-- An index that is spelled already is not free: the entry is hidden by what is broken. -/
example : (promote (smallStore.withFiles [(variableFile .globalVariable "Boot000A", .file [])])
    "Talos").value.1 = .ok ⟨[3, 1, 10, 1, 7]⟩ := by
  decide +kernel

end NextBoot.Firmware
