import NextBoot.Ascending
import NextBoot.Failure
import NextBoot.Kexec.Loader
import NextBoot.PathState
import NextBoot.Toml.Value

/-! Settings: a document of optional values over defaults, checked before use. -/
namespace NextBoot

open NextBoot.Kexec (Layout LayoutError Protocol)
open NextBoot.Toml (Value)

structure Settings where
  protocol : Protocol := .file
  layout : Layout := {}
  description : String := "Talos Linux UKI"
  storePath : String := "/sys/firmware/efi/efivars"
  deriving DecidableEq, Repr

inductive DocumentError where
  /-- The text is no document. -/
  | malformed
  /-- A value has the wrong type or is out of range. -/
  | mismatch
  | unknownField (name : String) (expected : List String)
  | unknownVariant (name : String) (expected : List String)
  deriving DecidableEq, Repr

namespace DocumentError

def ticked (name : String) : String := "`" ++ name ++ "`"

/-- Two names are joined by a word, more are listed. -/
def expectation (names : List String) : String :=
  match names with
  | [a, b] => "expected " ++ ticked a ++ " or " ++ ticked b
  | names => "expected one of " ++ ", ".intercalate (names.map ticked)

def message : DocumentError → String
  | malformed => "malformed document"
  | mismatch => "invalid type or value"
  | unknownField name expected =>
    "unknown field " ++ ticked name ++ ", " ++ expectation expected
  | unknownVariant name expected =>
    "unknown variant " ++ ticked name ++ ", " ++ expectation expected

end DocumentError

namespace Settings

/-- A key of a table, and what its value changes. -/
structure Field (σ : Type) where
  name : String
  set : Value → σ → Except DocumentError σ

/-- A date and time reads as a table with this key. -/
def dateTimeKey : String := "$__toml_private_datetime"

/-- The fields given by a value. A table gives them by name, in ascending order of the keys, and all
keys must be known. An array gives them in the order of the fields and may be shorter or longer. -/
def decodeFields {σ : Type} (fields : List (Field σ)) (v : Value) (s : σ) :
    Except DocumentError σ :=
  match v with
  | .table _ entries =>
    (Ascending.ofList (fun a b => decide (a.1 < b.1)) entries).foldlM (fun s (key, v) =>
      match fields.find? (·.name = key) with
      | some field => field.set v s
      | none => .error (.unknownField key (fields.map (·.name)))) s
  | .array _ items => (fields.zip items).foldlM (fun s (field, v) => field.set v s) s
  | .dateTime _ => .error (.unknownField dateTimeKey (fields.map (·.name)))
  | _ => .error .mismatch

def decodeText : Value → Except DocumentError String
  | .string text => .ok text
  | _ => .error .mismatch

def decodeAddress : Value → Except DocumentError UInt64
  | .integer (some n) => if 0 ≤ n ∧ n.toNat < UInt64.size then .ok (UInt64.ofNat n.toNat) else .error .mismatch
  | _ => .error .mismatch

def protocolNamed (name : String) : Except DocumentError Protocol :=
  match Protocol.ofName? name with
  | some protocol => .ok protocol
  | none => .error (.unknownVariant name [Protocol.file.name, Protocol.legacy.name])

/-- A protocol is a name, or a table with the name as its only key and nothing under it. -/
def decodeProtocol : Value → Except DocumentError Protocol
  | .string name => protocolNamed name
  | .table _ [(name, v)] => do
    let protocol ← protocolNamed name
    match v with
    | .table _ [] | .array _ [] => return protocol
    | _ => throw .mismatch
  | _ => .error .mismatch

def layoutFields : List (Field Layout) :=
  [⟨"kernel-address", fun v l => do return { l with kernel := ← decodeAddress v }⟩,
    ⟨"initrd-address", fun v l => do return { l with initrd := ← decodeAddress v }⟩,
    ⟨"cmdline-address", fun v l => do return { l with cmdline := ← decodeAddress v }⟩]

def kexecFields : List (Field Settings) :=
  [⟨"protocol", fun v s => do return { s with protocol := ← decodeProtocol v }⟩,
    ⟨"legacy-layout", fun v s => do
      return { s with layout := ← decodeFields layoutFields v {} }⟩]

def firmwareFields : List (Field Settings) :=
  [⟨"boot-entry-description", fun v s => do return { s with description := ← decodeText v }⟩,
    ⟨"efivars-path", fun v s => do return { s with storePath := ← decodeText v }⟩]

def rootFields : List (Field Settings) :=
  [⟨"kexec", decodeFields kexecFields⟩, ⟨"efi", decodeFields firmwareFields⟩]

/-- The settings that a document table gives, not checked yet. -/
def ofTable (root : Toml.Entries) : Except DocumentError Settings :=
  decodeFields rootFields (.table .header root) {}

inductive Error where
  | document (cause : DocumentError)
  | layout (cause : LayoutError)
  | unreadable (cause : IoError)
  /-- The path of the settings is no text. -/
  | pathNotText
  deriving DecidableEq, Repr

def Error.message : Error → String
  | document cause => cause.message
  | layout cause => cause.message
  | unreadable cause => cause.message
  | pathNotText => "Path contains invalid UTF-8"

def pathVariable : String := "BOOT_TO_TALOS_CONFIG"

def defaultPath : String := "/etc/boot-to-talos/config.toml"

section Routes
variable (read : Toml.DocumentReader)

def parse (text : String) : Except (Failure Error) Settings := do
  match read text with
  | none => throw (.of (.document .malformed))
  | some root =>
    let settings ← (ofTable root).mapError fun e => Failure.of (.document e)
    settings.layout.validate.mapError fun e =>
      (Failure.of (.layout e)).within "Invalid [kexec.legacy-layout]"
    return settings

/-- Load the settings at `path`, where it names `state`. -/
def loadFrom (path : String) (state : PathState) : Except (Failure Error) Settings :=
  let loaded : Except (Failure Error) Settings := do
    let text ← state.readText.mapError fun e => Failure.of (.unreadable e)
    parse read text
  loaded.mapError (Failure.within ("Loading config from " ++ path))

/-- Load the settings that the environment names, else those at the default path if there are any,
else the defaults. -/
def load (named : Option Bytes) (lookup : String → PathState) : Except (Failure Error) Settings :=
  match named with
  | some raw =>
    match Text.Utf8.decode? raw with
    | some path => loadFrom read path (lookup path)
    | none =>
      .error ⟨[pathVariable ++ " is not UTF-8",
        "PathBuf contains invalid UTF-8: " ++ Text.Utf8.decodeLossy raw], .pathNotText⟩
  | none =>
    match lookup defaultPath with
    | .missing => .ok {}
    | .blocked cause => .error (Failure.of (.unreadable cause))
    | state => loadFrom read defaultPath state

end Routes

end Settings

end NextBoot
