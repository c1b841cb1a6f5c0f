import NextBoot.Proofs.GivenFields
import NextBoot.Proofs.Kexec.SegmentPlacement

/-! What settings a document gives: each is the value given for it or its default, whatever else is
given. All ways to get settings lead through the check of the layout. -/
namespace NextBoot.Settings

open NextBoot.Kexec (Layout Protocol)
open NextBoot.Toml (Value)
open Outcome (bind_eq_ok_iff mapError_eq_ok_iff)

/-! ### What a document means -/

def IsText (v : Value) (text : String) : Prop := v = .string text

/-- An integer from zero on that fits in 64 bits. -/
def IsAddress (v : Value) (address : UInt64) : Prop := v = .integer (some address.toNat)

/-- The name of the protocol, or a table with this key alone and nothing under it. -/
def IsProtocol (v : Value) (protocol : Protocol) : Prop :=
  v = .string protocol.name ∨
    ∃ origin inner, v = .table origin [(protocol.name, inner)] ∧
      ((∃ origin, inner = .table origin []) ∨ ∃ growing, inner = .array growing [])

def layoutKeys : List String := ["kernel-address", "initrd-address", "cmdline-address"]

def kexecKeys : List String := ["protocol", "legacy-layout"]

def firmwareKeys : List String := ["boot-entry-description", "efivars-path"]

def rootKeys : List String := ["kexec", "efi"]

/-- The layout `after` has the addresses that `v` gives, and the others of `before`. -/
structure LayoutReads (before : Layout) (v : Value) (after : Layout) : Prop where
  keys : GivesFields layoutKeys v
  address : ∀ p, Reads IsAddress (before.address p) (given? layoutKeys v p.addressKey)
    (after.address p)

/-- The protocol and the layout that `v` gives, or those of `before`. A layout that is given says
nothing of the one before: what it leaves out are the defaults. -/
structure KexecReads (before : Protocol × Layout) (v : Value) (after : Protocol × Layout) :
    Prop where
  keys : GivesFields kexecKeys v
  protocol : Reads IsProtocol before.1 (given? kexecKeys v "protocol") after.1
  layout : Reads (LayoutReads {}) before.2 (given? kexecKeys v "legacy-layout") after.2

structure FirmwareReads (before : String × String) (v : Value) (after : String × String) :
    Prop where
  keys : GivesFields firmwareKeys v
  description : Reads IsText before.1 (given? firmwareKeys v "boot-entry-description") after.1
  storePath : Reads IsText before.2 (given? firmwareKeys v "efivars-path") after.2

/-- The settings `after` are those that a document gives over others, section by section. -/
structure RootReads (before : Settings) (v : Value) (after : Settings) : Prop where
  keys : GivesFields rootKeys v
  kexec : Reads (KexecReads (before.protocol, before.layout)) (before.protocol, before.layout)
    (given? rootKeys v "kexec") (after.protocol, after.layout)
  firmware : Reads (FirmwareReads (before.description, before.storePath))
    (before.description, before.storePath) (given? rootKeys v "efi")
    (after.description, after.storePath)

/-! ### Single values -/

section Values
variable {v : Value}

theorem decodeText_eq_ok_iff {text : String} : decodeText v = .ok text ↔ IsText v text := by
  unfold decodeText IsText
  split
  · simp
  next h => exact ⟨nofun, fun hv => (h _ hv).elim⟩

theorem decodeAddress_eq_ok_iff {address : UInt64} :
    decodeAddress v = .ok address ↔ IsAddress v address := by
  unfold decodeAddress IsAddress
  split
  next n =>
    split
    next hrange =>
      rw [Except.ok.injEq, Value.integer.injEq, Option.some.injEq]
      constructor
      · rintro rfl
        rw [UInt64.toNat_ofNat_of_lt' hrange.2, Int.toNat_of_nonneg hrange.1]
      · rintro rfl
        simp
    next hrange =>
      refine ⟨nofun, fun hv => ?_⟩
      obtain rfl := Option.some.inj (Value.integer.inj hv)
      exact absurd ⟨Int.natCast_nonneg _, address.toNat_lt⟩ hrange
  next h => exact ⟨nofun, fun hv => (h _ hv).elim⟩

theorem protocolNamed_eq_ok_iff {name : String} {protocol : Protocol} :
    protocolNamed name = .ok protocol ↔ name = protocol.name := by
  rw [← Protocol.ofName?_eq_some_iff]
  unfold protocolNamed
  cases Protocol.ofName? name <;> simp

theorem decodeProtocol_eq_ok_iff {protocol : Protocol} :
    decodeProtocol v = .ok protocol ↔ IsProtocol v protocol := by
  unfold decodeProtocol IsProtocol
  split
  next name => simp [protocolNamed_eq_ok_iff]
  next origin name inner =>
    simp only [bind_eq_ok_iff, protocolNamed_eq_ok_iff]
    constructor
    · rintro ⟨named, rfl, h⟩
      split at h
      · obtain rfl := Except.ok.inj h
        exact .inr ⟨origin, _, rfl, .inl ⟨_, rfl⟩⟩
      · obtain rfl := Except.ok.inj h
        exact .inr ⟨origin, _, rfl, .inr ⟨_, rfl⟩⟩
      · cases h
    · rintro (h | ⟨_, _, h, hinner⟩)
      · cases h
      · cases h
        obtain ⟨_, rfl⟩ | ⟨_, rfl⟩ := hinner
        · exact ⟨protocol, rfl, rfl⟩
        · exact ⟨protocol, rfl, rfl⟩
  next hstring htable =>
    refine ⟨nofun, ?_⟩
    rintro (hv | ⟨origin, inner, hv, -⟩)
    · exact (hstring _ hv).elim
    · exact (htable _ _ _ hv).elim

end Values

/-! ### The sections -/

section Sections
variable {v : Value}

def addressPart (p : Payload) : Part Layout UInt64 where
  get l := l.address p
  put a l := match p with
    | .kernel => { l with kernel := a }
    | .initrd => { l with initrd := a }
    | .cmdline => { l with cmdline := a }
  put_get l := by cases p <;> rfl

theorem addressPart_apart {p q : Payload} (hne : p ≠ q) : (addressPart p).Apart (addressPart q) where
  put_comm a b l := by revert hne; cases p <;> cases q <;> simp [addressPart]
  get_put b l := by revert hne; cases p <;> cases q <;> simp [addressPart, Layout.address]
  get_put' a l := by revert hne; cases p <;> cases q <;> simp [addressPart, Layout.address]

def addressField (p : Payload) : Field Layout where
  name := p.addressKey
  set v l := do return (addressPart p).put (← decodeAddress v) l

theorem layoutFields_eq : layoutFields = Payload.all.map addressField := rfl

theorem addressField_sets (p : Payload) :
    (addressField p).Sets (addressPart p) fun _ => IsAddress :=
  Field.sets_of_decode (fun _ _ => rfl) fun _ _ _ => decodeAddress_eq_ok_iff

theorem layoutFields_independent : layoutFields.Pairwise Field.Independent := by
  have distinct : Payload.all.Pairwise (· ≠ ·) := by decide
  rw [layoutFields_eq, List.pairwise_map]
  exact distinct.imp fun hne =>
    (addressField_sets _).independent (addressField_sets _) (addressPart_apart hne)

theorem setGiven_addressFields {given : String → Option Value}
    (hgiven : ∀ name, ∀ w ∈ given name, w.WellKeyed) {l l' : Layout} :
    setGiven given layoutFields l = .ok l' ↔
      ∀ p, Reads IsAddress (l.address p) (given p.addressKey) (l'.address p) := by
  have field (p : Payload) (l l' : Layout) :
      (addressField p).setGiven (given p.addressKey) l = .ok l' ↔ _ :=
    (addressField_sets p).setGiven_eq_ok_iff (hgiven p.addressKey)
  rw [layoutFields_eq]
  simp only [Payload.all, List.map_cons, List.map_nil, setGiven_cons_eq_ok_iff]
  constructor
  · rintro ⟨_, hk, _, hi, _, hc, hlast⟩
    obtain ⟨kernel, hkernel, rfl⟩ := (field .kernel _ _).mp hk
    obtain ⟨initrd, hinitrd, rfl⟩ := (field .initrd _ _).mp hi
    obtain ⟨cmdline, hcmdline, rfl⟩ := (field .cmdline _ _).mp hc
    obtain rfl := Except.ok.inj hlast
    intro p
    cases p with
    | kernel => exact hkernel
    | initrd => exact hinitrd
    | cmdline => exact hcmdline
  · intro h
    exact ⟨_, (field .kernel _ _).mpr ⟨l'.kernel, h .kernel, rfl⟩,
      _, (field .initrd _ _).mpr ⟨l'.initrd, h .initrd, rfl⟩,
      _, (field .cmdline _ _).mpr ⟨l'.cmdline, h .cmdline, rfl⟩, rfl⟩

theorem decodeFields_layout_eq_ok_iff (keyed : v.WellKeyed) {l l' : Layout} :
    decodeFields layoutFields v l = .ok l' ↔ LayoutReads l v l' := by
  rw [decodeFields_eq_ok_iff (by decide) layoutFields_independent keyed,
    setGiven_addressFields (wellKeyed_of_given? keyed _)]
  exact ⟨fun ⟨hkeys, haddress⟩ => ⟨hkeys, haddress⟩, fun h => ⟨h.keys, h.address⟩⟩

def protocolPart : Part Settings Protocol where
  get s := s.protocol
  put a s := { s with protocol := a }
  put_get _ := rfl

def layoutPart : Part Settings Layout where
  get s := s.layout
  put a s := { s with layout := a }
  put_get _ := rfl

def descriptionPart : Part Settings String where
  get s := s.description
  put a s := { s with description := a }
  put_get _ := rfl

def storePathPart : Part Settings String where
  get s := s.storePath
  put a s := { s with storePath := a }
  put_get _ := rfl

theorem kexec_sets :
    Field.Sets ⟨"kexec", decodeFields kexecFields⟩ (protocolPart.both layoutPart) KexecReads := by
  have hprotocol : kexecFields[0].Sets protocolPart fun _ => IsProtocol :=
    Field.sets_of_decode (fun _ _ => rfl) fun _ _ _ => decodeProtocol_eq_ok_iff
  have hlayout : kexecFields[1].Sets layoutPart fun _ => LayoutReads {} :=
    Field.sets_of_decode (fun _ _ => rfl) fun _ keyed _ => decodeFields_layout_eq_ok_iff keyed
  have apart : protocolPart.Apart layoutPart :=
    ⟨fun _ _ _ => rfl, fun _ _ => rfl, fun _ _ => rfl⟩
  refine (hprotocol.both hlayout apart (by decide) "kexec").congr fun before v after => ?_
  exact ⟨fun ⟨hkeys, hprotocol, hlayout⟩ => ⟨hkeys, hprotocol, hlayout⟩,
    fun h => ⟨h.keys, h.protocol, h.layout⟩⟩

theorem firmware_sets :
    Field.Sets ⟨"efi", decodeFields firmwareFields⟩ (descriptionPart.both storePathPart)
      FirmwareReads := by
  have hdescription : firmwareFields[0].Sets descriptionPart fun _ => IsText :=
    Field.sets_of_decode (fun _ _ => rfl) fun _ _ _ => decodeText_eq_ok_iff
  have hstorePath : firmwareFields[1].Sets storePathPart fun _ => IsText :=
    Field.sets_of_decode (fun _ _ => rfl) fun _ _ _ => decodeText_eq_ok_iff
  have apart : descriptionPart.Apart storePathPart :=
    ⟨fun _ _ _ => rfl, fun _ _ => rfl, fun _ _ => rfl⟩
  refine (hdescription.both hstorePath apart (by decide) "efi").congr fun before v after => ?_
  exact ⟨fun ⟨hkeys, hdescription, hstorePath⟩ => ⟨hkeys, hdescription, hstorePath⟩,
    fun h => ⟨h.keys, h.description, h.storePath⟩⟩

theorem ofTable_eq_ok_iff {root : Toml.Entries} (keyed : root.WellKeyed) {s : Settings} :
    ofTable root = .ok s ↔ RootReads {} (.table .header root) s := by
  have apart : (protocolPart.both layoutPart).Apart (descriptionPart.both storePathPart) :=
    ⟨fun _ _ _ => rfl, fun _ _ => rfl, fun _ _ => rfl⟩
  show decodeFields [_, _] (.table .header root) {} = .ok s ↔ _
  rw [decodeFields_pair_eq_ok_iff kexec_sets firmware_sets apart (by decide)
    (Value.wellKeyed_table_iff.mpr keyed)]
  constructor
  · rintro ⟨hkeys, kexec, firmware, hkexec, hfirmware, rfl⟩
    exact ⟨hkeys, hkexec, hfirmware⟩
  · rintro ⟨hkeys, hkexec, hfirmware⟩
    exact ⟨hkeys, _, _, hkexec, hfirmware, rfl⟩

end Sections

/-! ### All ways to settings -/

section Routes
variable {read : Toml.DocumentReader} {s : Settings}

theorem parse_eq_ok_iff (keyed : read.Keyed) {text : String} : parse read text = .ok s ↔
    ∃ root, read text = some root ∧ RootReads {} (.table .header root) s ∧
      s.layout.validate = .ok () := by
  unfold parse
  cases hroot : read text with
  | none => simp [throw, throwThe, MonadExceptOf.throw]
  | some root =>
    simp only [bind_eq_ok_iff, mapError_eq_ok_iff, ofTable_eq_ok_iff (keyed text root hroot),
      Option.some.injEq]
    constructor
    · rintro ⟨decoded, hdecoded, ⟨⟩, hvalid, hs⟩
      obtain rfl := Except.ok.inj hs
      exact ⟨root, rfl, hdecoded, hvalid⟩
    · rintro ⟨_, rfl, hdecoded, hvalid⟩
      exact ⟨s, hdecoded, (), hvalid, rfl⟩

theorem validate_of_parse {text : String} (h : parse read text = .ok s) :
    s.layout.validate = .ok () := by
  unfold parse at h
  split at h
  · cases h
  · simp only [bind_eq_ok_iff, mapError_eq_ok_iff] at h
    obtain ⟨decoded, -, ⟨⟩, hvalid, hs⟩ := h
    obtain rfl := Except.ok.inj hs
    exact hvalid

theorem validate_of_loadFrom {path : String} {state : PathState}
    (h : loadFrom read path state = .ok s) : s.layout.validate = .ok () := by
  obtain ⟨text, -, hparse⟩ := bind_eq_ok_iff.mp (mapError_eq_ok_iff.mp h)
  exact validate_of_parse hparse

theorem validate_of_load {named : Option Bytes} {lookup : String → PathState}
    (h : load read named lookup = .ok s) : s.layout.validate = .ok () := by
  unfold load at h
  split at h
  · split at h
    · exact validate_of_loadFrom h
    · cases h
  · split at h
    · obtain rfl := Except.ok.inj h
      decide
    · cases h
    · exact validate_of_loadFrom h

/-- Settings that the program can come to work with. -/
inductive Obtained (read : Toml.DocumentReader) : Settings → Prop
  | parsed {text : String} {s : Settings} : parse read text = .ok s → Obtained read s
  | loadedFrom {path : String} {state : PathState} {s : Settings} :
    loadFrom read path state = .ok s → Obtained read s
  | loaded {named : Option Bytes} {lookup : String → PathState} {s : Settings} :
    load read named lookup = .ok s → Obtained read s

/-- Where the tables of documents have no key twice, a text gives exactly the settings that its
document describes over the defaults, if the layout they come to is valid; and no other layout is ever
worked with. -/
theorem parse_spec (keyed : read.Keyed) :
    (∀ text s, parse read text = .ok s ↔ ∃ root, read text = some root ∧
      RootReads {} (.table .header root) s ∧
      (∀ p, 4096 ∣ (s.layout.address p).toNat ∧ (s.layout.address p).toNat < 2 ^ 32) ∧
      Function.Injective s.layout.address) ∧
    ∀ s, Obtained read s → s.layout.validate = .ok () := by
  refine ⟨fun text s => ?_, fun s hs => ?_⟩
  · rw [parse_eq_ok_iff keyed]
    exact exists_congr fun root => and_congr_right fun _ => and_congr_right fun _ =>
      Kexec.Layout.validate_eq_ok_iff
  · cases hs with
    | parsed h => exact validate_of_parse h
    | loadedFrom h => exact validate_of_loadFrom h
    | loaded h => exact validate_of_load h

end Routes

/-- A document that moves the initrd and describes another entry. -/
def movedDocument : String :=
  "[kexec]\nprotocol = \"legacy\"\n\n[kexec.legacy-layout]\ninitrd-address = 0x20000000\n\n" ++
    "[efi]\nboot-entry-description = \"Talos Linux UKI (test)\"\n"

def movedSettings : Settings where
  protocol := .legacy
  layout := { initrd := 0x20000000 }
  description := "Talos Linux UKI (test)"

/-- All but the initrd's address, the protocol and the description are the defaults. -/
theorem parse_movedDocument :
    Toml.DocumentReader.Keyed Toml.parse? ∧
      parse Toml.parse? movedDocument = .ok movedSettings ∧
      (load Toml.parse? none fun _ => .file (Text.Utf8.encode movedDocument)) = .ok movedSettings ∧
      (∃ root, Toml.parse? movedDocument = some root ∧
        RootReads {} (.table .header root) movedSettings) ∧
      movedSettings.layout.validate = .ok () := by
  obtain ⟨described, valid⟩ := parse_spec Toml.parse?_keyed
  have hparse : parse Toml.parse? movedDocument = .ok movedSettings := by decide +kernel
  have htext : (PathState.file (Text.Utf8.encode movedDocument)).readText = .ok movedDocument := by
    simp only [PathState.readText, PathState.read, Outcome.ok_bind, Text.Utf8.decode?_encode]
  have hload : (load Toml.parse? none fun _ => .file (Text.Utf8.encode movedDocument)) =
      .ok movedSettings := by
    show loadFrom Toml.parse? defaultPath (.file (Text.Utf8.encode movedDocument)) = _
    simp only [loadFrom, htext, Outcome.mapError_ok, Outcome.ok_bind, hparse]
  obtain ⟨root, hroot, hreads, -⟩ := (described _ _).mp hparse
  exact ⟨Toml.parse?_keyed, hparse, hload, ⟨root, hroot, hreads⟩, valid _ (.loaded hload)⟩

/-- An address that is given may be the default of another. -/
example :
    (parse Toml.parse? "[kexec.legacy-layout]\ncmdline-address = 0x100000\n").toOption = none := by
  decide +kernel

end NextBoot.Settings
