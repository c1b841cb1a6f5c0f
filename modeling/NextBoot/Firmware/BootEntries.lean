import NextBoot.Firmware.BootOrder

/-! Boot entries: the variables named `Boot` and four digits. -/
namespace NextBoot.Firmware

def bootName (letters : Text.LetterCase) (index : UInt16) : String :=
  String.ofList ("Boot".toList ++ Text.hexPadded letters 4 index.toNat)

/-- The index that the name of a boot entry spells, in digits of either case. -/
def bootIndex? (name : String) : Option UInt16 :=
  match name.toList with
  | ['B', 'o', 'o', 't', c₀, c₁, c₂, c₃] => do
    let d₀ ← Text.hexValue? c₀
    let d₁ ← Text.hexValue? c₁
    let d₂ ← Text.hexValue? c₂
    let d₃ ← Text.hexValue? c₃
    return UInt16.ofNat (((d₀ * 16 + d₁) * 16 + d₂) * 16 + d₃)
  | _ => none

/-- The value of a boot entry, under its upper case name or else under its lower case name. -/
def readBootValue (s : VariableStore) (index : UInt16) : Except StoreError Bytes :=
  match s.read .globalVariable (bootName .upper index) with
  | .ok (raw, _) => .ok raw
  | .error (.notFound _) => (s.read .globalVariable (bootName .lower index)).map Prod.fst
  | .error e => .error e

def readBootEntry (s : VariableStore) (index : UInt16) : Except BootError LoadOption := do
  let raw ← (readBootValue s index).mapError .store
  (LoadOption.decode raw).mapError .malformedOption

/-- The indices that names spell, ascending. -/
def listedIndices (names : List String) : List UInt16 :=
  Ascending.ofList (fun a b => decide (a < b)) (names.filterMap bootIndex?)

/-- All listed entries that decode, by ascending index. -/
def decodedEntries (s : VariableStore) (names : List String) : List (UInt16 × LoadOption) :=
  (listedIndices names).filterMap fun i => (readBootEntry s i).toOption.map (i, ·)

/-- A warning for each listed entry that does not decode. -/
def entryWarnings (s : VariableStore) (names : List String) : Log :=
  names.filterMap fun name => do
    match readBootEntry s (← bootIndex? name) with
    | .ok _ => none
    | .error e => some (.warn .bootOrder ("skipping " ++ name ++ ": " ++ e.message))

/-- One broken entry does not keep the others from being found. -/
def bootEntries (s : VariableStore) :
    Logged (Except BootError (List (UInt16 × LoadOption))) :=
  match s.list .globalVariable with
  | .error e => pure (.error (.store e))
  | .ok names => ⟨.ok (decodedEntries s names), entryWarnings s names⟩

end NextBoot.Firmware
