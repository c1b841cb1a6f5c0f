import NextBoot.Proofs.Firmware.EntryMap
import NextBoot.Proofs.Firmware.VariableKeys

/-! Which files the boot entries come from. Names with digits of either case are listed, but entries
are looked for under two names only, with all their digits in upper case or all in lower case. -/
namespace NextBoot.Firmware

/-! ### Names of entries -/

def entryName (digits : List Char) : String := String.ofList ("Boot".toList ++ digits)

@[simp] theorem toList_entryName (digits : List Char) :
    (entryName digits).toList = "Boot".toList ++ digits := String.toList_ofList

theorem bootIndex?_entryName {digits : List Char} (h : digits.length = 4) :
    bootIndex? (entryName digits) = (Text.natural? 16 digits).map UInt16.ofNat := by
  match digits, h with
  | [c₀, c₁, c₂, c₃], _ =>
    have hname : (entryName [c₀, c₁, c₂, c₃]).toList = ['B', 'o', 'o', 't', c₀, c₁, c₂, c₃] :=
      toList_entryName _
    unfold bootIndex?
    rw [hname]
    simp only [Text.natural?, List.isEmpty_cons, Bool.false_eq_true, if_false,
      Text.digitBelow?_sixteen, List.mapM_cons, List.mapM_nil]
    rcases Text.hexValue? c₀ with _ | d₀
    · rfl
    rcases Text.hexValue? c₁ with _ | d₁
    · rfl
    rcases Text.hexValue? c₂ with _ | d₂
    · rfl
    rcases Text.hexValue? c₃ with _ | d₃
    · rfl
    simp

/-- The names of entries are those with four digits, of whatever case each, after `Boot`. -/
theorem bootIndex?_eq_some_iff {name : String} {i : UInt16} :
    bootIndex? name = some i ↔ ∃ digits, digits.length = 4 ∧
      Text.natural? 16 digits = some i.toNat ∧ name = entryName digits := by
  constructor
  · intro h
    obtain ⟨digits, hsize, rfl⟩ : ∃ digits, digits.length = 4 ∧ name = entryName digits := by
      unfold bootIndex? at h
      split at h
      next c₀ c₁ c₂ c₃ hname =>
        exact ⟨[c₀, c₁, c₂, c₃], rfl, String.toList_inj.mp (by rw [hname, toList_entryName]; rfl)⟩
      next => cases h
    rw [bootIndex?_entryName hsize] at h
    obtain ⟨n, hn, rfl⟩ := Option.map_eq_some_iff.mp h
    have hlt : n < 2 ^ 16 := by simpa [hsize] using Text.natural?_lt hn
    exact ⟨digits, hsize, by rw [hn, UInt16.toNat_ofNat', Nat.mod_eq_of_lt hlt], rfl⟩
  · rintro ⟨digits, hsize, hread, rfl⟩
    rw [bootIndex?_entryName hsize, hread, Option.map_some, UInt16.ofNat_toNat]

theorem bootName_eq (letters : Text.LetterCase) (i : UInt16) :
    bootName letters i = entryName (Text.hexPadded letters 4 i.toNat) := rfl

theorem bootIndex?_bootName (letters : Text.LetterCase) (i : UInt16) :
    bootIndex? (bootName letters i) = some i := by
  have hread := Text.natural?_hexPadded letters 3 i.toNat
  rw [Nat.mod_eq_of_lt (by exact i.toNat_lt)] at hread
  exact bootIndex?_eq_some_iff.mpr
    ⟨_, Text.length_hexPadded .., hread, bootName_eq letters i⟩

theorem notMem_bootName {letters : Text.LetterCase} {i : UInt16} {c : Char}
    (hc : c ∉ "Boot".toList) (hd : Text.hexValue? c = none) : c ∉ (bootName letters i).toList := by
  rw [bootName_eq, toList_entryName, List.mem_append]
  rintro (h | h)
  · exact hc h
  · have hsome := Text.isSome_hexValue?_of_mem_hexPadded h
    rw [hd] at hsome
    cases hsome

/-- The variable under one of the two names that an entry is looked for. -/
def bootVariable (letters : Text.LetterCase) (i : UInt16) : Variable where
  scope := .globalVariable
  name := bootName letters i
  component := notMem_bootName (by decide) (by decide)
  text := notMem_bootName (by decide) (by decide)
  fits := by
    refine (Text.Utf8.length_encode_le _).trans ?_
    simp [bootName_eq, ownerSuffix, FileName.limit]

/-! ### What is read -/

/-- What is under the name of the entry's file. -/
def entryNode? (s : VariableStore) (name : String) : Option Node :=
  s.directory.get? (variableFile .globalVariable name)

/-- The entry of this name decodes to `o`. -/
def HoldsEntry (s : VariableStore) (name : String) (o : LoadOption) : Prop :=
  ∃ content, entryNode? s name = some (.file content) ∧ Attributes.size ≤ content.length ∧
    LoadOption.decode (content.drop Attributes.size) = .ok o

theorem Variable.readNode_eq_ok_iff (v : Variable) (node? : Option Node) (raw : Bytes) :
    (v.readNode node?).map Prod.fst = .ok raw ↔ ∃ content, node? = some (.file content) ∧
      Attributes.size ≤ content.length ∧ content.drop Attributes.size = raw := by
  constructor
  · intro h
    match node?, h with
    | some (.file (b₀ :: b₁ :: b₂ :: b₃ :: value)), h =>
      exact ⟨_, rfl, by simp [Attributes.size], Except.ok.inj h⟩
  · rintro ⟨content, rfl, hsize, rfl⟩
    obtain ⟨b₀, b₁, b₂, b₃, value, rfl⟩ := VariableStore.exists_header_of_size_le hsize
    rfl

theorem Variable.readNode_ne_notFound (v : Variable) (node : Node) (name : String) :
    v.readNode (some node) ≠ .error (.notFound name) := by
  match node with
  | .directory | .file [] | .file [_] | .file [_, _] | .file [_, _, _]
  | .file (_ :: _ :: _ :: _ :: _) => exact nofun

section Read
variable {s : VariableStore} {i : UInt16}

theorem read_bootName (letters : Text.LetterCase) : s.read .globalVariable (bootName letters i) =
    (bootVariable letters i).readNode (entryNode? s (bootName letters i)) :=
  (bootVariable letters i).read_eq_readNode s

/-- An entry depends on what is read under its two names only. -/
theorem readBootEntry_congr {t : VariableStore} (h : ∀ letters,
    s.read .globalVariable (bootName letters i) = t.read .globalVariable (bootName letters i)) :
    readBootEntry s i = readBootEntry t i := by
  unfold readBootEntry readBootValue
  rw [h, h]

theorem readBootValue_of_absent (h : entryNode? s (bootName .upper i) = none) :
    readBootValue s i = (s.read .globalVariable (bootName .lower i)).map Prod.fst := by
  have hread := read_bootName (s := s) (i := i) .upper
  rw [h] at hread
  unfold readBootValue
  rw [hread]
  rfl

/-- What is under the upper case name is all that is read, be it a directory. -/
theorem readBootValue_of_present {node : Node}
    (h : entryNode? s (bootName .upper i) = some node) :
    readBootValue s i = (s.read .globalVariable (bootName .upper i)).map Prod.fst := by
  have hread := read_bootName (s := s) (i := i) .upper
  have hne := (bootVariable .upper i).readNode_ne_notFound node
  rw [h] at hread
  rw [← hread] at hne
  unfold readBootValue
  generalize s.read .globalVariable (bootName .upper i) = outcome at hne ⊢
  cases outcome with
  | ok => rfl
  | error e =>
    cases e with
    | notFound name => exact absurd rfl (hne name)
    | malformed | readOnly | io => rfl

theorem readBootEntry_eq_ok_iff {o : LoadOption} :
    readBootEntry s i = .ok o ↔ HoldsEntry s (bootName .upper i) o ∨
      entryNode? s (bootName .upper i) = none ∧ HoldsEntry s (bootName .lower i) o := by
  have hholds (letters : Text.LetterCase) : HoldsEntry s (bootName letters i) o ↔
      ∃ raw, (s.read .globalVariable (bootName letters i)).map Prod.fst = .ok raw ∧
        LoadOption.decode raw = .ok o := by
    rw [read_bootName]
    simp only [Variable.readNode_eq_ok_iff, HoldsEntry]
    constructor
    · rintro ⟨content, hfile, hsize, hdecode⟩
      exact ⟨_, ⟨content, hfile, hsize, rfl⟩, hdecode⟩
    · rintro ⟨_, ⟨content, hfile, hsize, rfl⟩, hdecode⟩
      exact ⟨content, hfile, hsize, hdecode⟩
  have hdecoded : readBootEntry s i = .ok o ↔
      ∃ raw, readBootValue s i = .ok raw ∧ LoadOption.decode raw = .ok o := by
    simp only [readBootEntry, Outcome.bind_eq_ok_iff, Outcome.mapError_eq_ok_iff]
  rw [hdecoded]
  cases hn : entryNode? s (bootName .upper i) with
  | none =>
    have hupper : ¬HoldsEntry s (bootName .upper i) o := by
      rintro ⟨content, hfile, -⟩
      rw [hn] at hfile
      cases hfile
    rw [readBootValue_of_absent hn, ← hholds .lower]
    simp [hupper]
  | some node =>
    rw [readBootValue_of_present hn, ← hholds .upper]
    simp

end Read

/-! ### What is listed -/

theorem variableName?_variableFile (scope : Guid) (name : String) :
    variableName? scope (variableFile scope name) = some name := by
  simp [variableName?, variableFile]

theorem Directory.mem_entries_iff {d : Directory} {name : Bytes} {node : Node} :
    (name, node) ∈ d.entries ↔ d.get? name = some node := by
  constructor
  · intro h
    obtain ⟨before, after, hsplit⟩ := List.append_of_mem h
    have hd := d.distinct
    rw [hsplit, List.map_append, List.map_cons] at hd
    apply List.lookup_eq_some_iff.mpr
    refine ⟨before, after, hsplit, ?_⟩
    intro entry hentry
    have hne : name ≠ entry.1 := by
      rintro rfl
      exact List.disjoint_of_nodup_append hd (List.mem_map_of_mem hentry) List.mem_cons_self
    simpa using hne
  · intro h
    obtain ⟨before, after, hsplit, -⟩ := List.lookup_eq_some_iff.mp h
    rw [hsplit]
    exact List.mem_append_right _ List.mem_cons_self

theorem text_connected (a b : String) (h : decide (a < b) = false) (h' : decide (b < a) = false) :
    a = b :=
  String.le_antisymm (String.not_lt.mp (of_decide_eq_false h'))
    (String.not_lt.mp (of_decide_eq_false h))

namespace VariableStore

theorem ownedVariable?_eq_some_iff {scope : Guid} {file : Bytes} {node : Node} {name : String} :
    ownedVariable? scope (file, node) = some name ↔
      (∃ content, node = .file content) ∧ variableName? scope file = some name := by
  cases node with
  | directory => simp [ownedVariable?]
  | file content => simp [ownedVariable?]

section List
variable {s : VariableStore} {scope : Guid} {names : List String}

theorem eq_of_list_eq_ok (list : s.list scope = .ok names) :
    names = Ascending.ofList (fun a b => decide (a < b))
      (s.directory.entries.filterMap (ownedVariable? scope)) := by
  cases h : s.directory.unlistable with
  | none => exact Except.ok.inj (list.symm.trans (list_of_listable h))
  | some errno =>
    rw [list_of_unlistable h] at list
    cases list

theorem mem_list_iff (list : s.list scope = .ok names) {name : String} :
    name ∈ names ↔ ∃ file content, s.directory.get? file = some (.file content) ∧
      variableName? scope file = some name := by
  rw [eq_of_list_eq_ok list, Ascending.mem_ofList text_connected, List.mem_filterMap]
  constructor
  · rintro ⟨⟨file, node⟩, hentry, howned⟩
    obtain ⟨⟨content, rfl⟩, hname⟩ := ownedVariable?_eq_some_iff.mp howned
    exact ⟨file, content, Directory.mem_entries_iff.mp hentry, hname⟩
  · rintro ⟨file, content, hfile, hname⟩
    exact ⟨(file, .file content), Directory.mem_entries_iff.mpr hfile,
      ownedVariable?_eq_some_iff.mpr ⟨⟨content, rfl⟩, hname⟩⟩

theorem mem_list (list : s.list scope = .ok names) {name : String} {content : Bytes}
    (file : s.directory.get? (variableFile scope name) = some (.file content)) : name ∈ names :=
  (mem_list_iff list).mpr ⟨_, content, file, variableName?_variableFile scope name⟩

end List

end VariableStore

theorem mem_listedIndices_of_holds {s : VariableStore} {names : List String}
    (list : s.list .globalVariable = .ok names) {letters : Text.LetterCase} {i : UInt16}
    {o : LoadOption} (holds : HoldsEntry s (bootName letters i) o) : i ∈ listedIndices names := by
  obtain ⟨content, hfile, -⟩ := holds
  exact mem_listedIndices_iff.mpr
    ⟨_, VariableStore.mem_list list hfile, bootIndex?_bootName letters i⟩

theorem mem_bootEntries_iff {s : VariableStore} {entries : List (UInt16 × LoadOption)}
    (h : (bootEntries s).value = .ok entries) {i : UInt16} {o : LoadOption} :
    (i, o) ∈ entries ↔ HoldsEntry s (bootName .upper i) o ∨
      entryNode? s (bootName .upper i) = none ∧ HoldsEntry s (bootName .lower i) o := by
  unfold bootEntries at h
  split at h
  · cases h
  next names list =>
    obtain rfl : decodedEntries s names = entries := Except.ok.inj h
    rw [mem_decodedEntries_iff, readBootEntry_eq_ok_iff, and_iff_right_iff_imp]
    rintro (holds | ⟨-, holds⟩)
    · exact mem_listedIndices_of_holds list holds
    · exact mem_listedIndices_of_holds list holds

/-- No two names in the directory spell one index. -/
def SpelledOnce (s : VariableStore) : Prop :=
  ∀ name name' i, bootIndex? name = some i → bootIndex? name' = some i →
    (entryNode? s name).isSome → (entryNode? s name').isSome → name = name'

theorem HoldsEntry.isSome {s : VariableStore} {name : String} {o : LoadOption}
    (holds : HoldsEntry s name o) : (entryNode? s name).isSome := by
  obtain ⟨content, hfile, -⟩ := holds
  rw [hfile]
  rfl

/-- An entry that decodes, and shares its index with no other name, is found where its digits are all
in upper case or all in lower case, and is not found where they are mixed. -/
theorem SpelledOnce.mem_bootEntries_iff {s : VariableStore} (once : SpelledOnce s)
    {entries : List (UInt16 × LoadOption)} (h : (bootEntries s).value = .ok entries)
    {digits : List Char} {i : UInt16} {o : LoadOption} (size : digits.length = 4)
    (spells : Text.natural? 16 digits = some i.toNat) (holds : HoldsEntry s (entryName digits) o) :
    (i, o) ∈ entries ↔ ∃ letters, digits = Text.hexPadded letters 4 i.toNat := by
  have hindex : bootIndex? (entryName digits) = some i :=
    bootIndex?_eq_some_iff.mpr ⟨digits, size, spells, rfl⟩
  have hsame (letters : Text.LetterCase) (there : (entryNode? s (bootName letters i)).isSome) :
      entryName digits = bootName letters i :=
    once _ _ i hindex (bootIndex?_bootName letters i) holds.isSome there
  rw [Firmware.mem_bootEntries_iff h]
  constructor
  · have hdigits (letters : Text.LetterCase) (found : HoldsEntry s (bootName letters i) o) :
        digits = Text.hexPadded letters 4 i.toNat := by
      have htext := congrArg String.toList (hsame letters found.isSome)
      rw [bootName_eq, toList_entryName, toList_entryName] at htext
      exact List.append_cancel_left htext
    rintro (found | ⟨-, found⟩)
    · exact ⟨.upper, hdigits .upper found⟩
    · exact ⟨.lower, hdigits .lower found⟩
  · rintro ⟨letters, rfl⟩
    rw [← bootName_eq] at holds hsame
    -- Whatever is under the upper case name is this entry itself, so it hides nothing.
    cases hn : entryNode? s (bootName .upper i) with
    | none =>
      cases letters with
      | lower => exact .inr ⟨rfl, holds⟩
      | upper => exact .inl holds
    | some node =>
      rw [hsame .upper (by rw [hn]; rfl)] at holds
      exact .inl holds

/-- The boot entries of a store, for every index, and for every name that spells one. -/
theorem bootEntries_spec (s : VariableStore) :
    (∀ errno, s.directory.unlistable = some errno →
      (bootEntries s).value = .error (.store (.ofErrno .listing "." errno))) ∧
    (s.directory.unlistable = none → ∃ entries, (bootEntries s).value = .ok entries ∧
      (entries.map Prod.fst).Pairwise (· < ·) ∧
      (∀ i o, (i, o) ∈ entries ↔ HoldsEntry s (bootName .upper i) o ∨
        entryNode? s (bootName .upper i) = none ∧ HoldsEntry s (bootName .lower i) o) ∧
      (SpelledOnce s → ∀ digits i o, digits.length = 4 →
        Text.natural? 16 digits = some i.toNat → HoldsEntry s (entryName digits) o →
        ((i, o) ∈ entries ↔ ∃ letters, digits = Text.hexPadded letters 4 i.toNat))) := by
  refine ⟨fun _ h => bootEntries_of_unlistable h, fun h => ?_⟩
  obtain ⟨entries, hentries⟩ := exists_bootEntries h
  refine ⟨entries, hentries, bootEntries_ascending hentries, ?_, ?_⟩
  · intro i o
    exact mem_bootEntries_iff hentries
  · intro once digits i o size spells holds
    exact once.mem_bootEntries_iff hentries size spells holds

def mixedName : String := "Boot00aF"

def mixedOption : LoadOption := ⟨1, "mixed", [0x04, 0x01, 0x2A, 0x00, 0x7F, 0xFF, 0x04, 0x00]⟩

/-- One entry, with digits in lower and in upper case. -/
def mixedStore : VariableStore where
  directory := .ofList [(variableFile .globalVariable mixedName,
    .file (variableContent BootOrder.attributes (mixedOption.encode 8)))]
  writable := false
  flags := ⟨0, false, false, 0, []⟩

theorem spelledOnce_mixedStore : SpelledOnce mixedStore := by
  have honly {name : String} (there : (entryNode? mixedStore name).isSome) : name = mixedName := by
    by_contra hne
    have hfile : variableFile .globalVariable name ≠ variableFile .globalVariable mixedName :=
      fun h => hne (variableFile_inj h).2
    have hnone : entryNode? mixedStore name = none :=
      (Directory.get?_insert ..).trans (if_neg hfile)
    rw [hnone] at there
    cases there
  intro name name' _ _ _ there there'
  rw [honly there, honly there']

/-- The entry is listed and decodes, and is not found. -/
theorem bootEntries_mixedStore : bootIndex? mixedName = some 0xAF ∧ SpelledOnce mixedStore ∧
    HoldsEntry mixedStore mixedName mixedOption ∧ (bootEntries mixedStore).value = .ok [] := by
  refine ⟨by decide +kernel, spelledOnce_mixedStore, ⟨_, rfl, ?_, ?_⟩, by decide +kernel⟩
  · decide +kernel
  · decide +kernel

end NextBoot.Firmware
