/-! Messages for the operator, and values computed while logging them. -/
namespace NextBoot

inductive Level where
  | error
  | warn
  | info
  | debug
  | trace
  deriving DecidableEq, Repr

namespace Level

def name : Level → String
  | error => "ERROR"
  | warn => "WARN"
  | info => "INFO"
  | debug => "DEBUG"
  | trace => "TRACE"

/-- Higher is more talkative. -/
def verbosity : Level → Nat
  | error => 1
  | warn => 2
  | info => 3
  | debug => 4
  | trace => 5

end Level

/-- The part of the program that a message comes from. -/
inductive Source where
  | program
  | image
  | sectionTable
  | loader
  | bootOrder
  /-- What is tried, and may fail. -/
  | attempt
  deriving DecidableEq, Repr

/-- The name by which a filter knows the part. -/
def Source.name : Source → String
  | program => "boot_to_talos"
  | image => "boot_to_talos_uki"
  | sectionTable => "boot_to_talos_uki::pe"
  | loader => "boot_to_talos_lib::kexec"
  | bootOrder => "boot_to_talos_lib::bootorder"
  | attempt => "boot_to_talos_internal_utils"

structure Message where
  level : Level
  source : Source
  text : String
  fields : List (String × String) := []
  deriving DecidableEq, Repr

namespace Message

def info (source : Source) (text : String) (fields : List (String × String) := []) : Message :=
  ⟨.info, source, text, fields⟩

def warn (source : Source) (text : String) : Message := ⟨.warn, source, text, []⟩

/-- The names of the fields; the text is one of them. -/
def fieldNames (m : Message) : List String := "message" :: m.fields.map (·.1)

/-- The text followed by each field as `key=value`. -/
def body (m : Message) : String :=
  m.fields.foldl (fun line (key, value) => line ++ " " ++ key ++ "=" ++ value) m.text

def render (m : Message) : String := m.level.name ++ " " ++ m.body

end Message

abbrev Log := List Message

/-- A value and the messages logged while it was computed. -/
structure Logged (α : Type) where
  value : α
  log : Log
  deriving DecidableEq, Repr

namespace Logged

instance : Monad Logged where
  pure a := ⟨a, []⟩
  bind x f := ⟨(f x.value).value, x.log ++ (f x.value).log⟩

def tell (m : Message) : Logged Unit := ⟨(), [m]⟩

@[simp] theorem value_pure {α : Type} (a : α) : (pure a : Logged α).value = a := rfl

@[simp] theorem log_pure {α : Type} (a : α) : (pure a : Logged α).log = [] := rfl

@[simp] theorem value_bind {α β : Type} (x : Logged α) (f : α → Logged β) :
    (x >>= f).value = (f x.value).value := rfl

@[simp] theorem log_bind {α β : Type} (x : Logged α) (f : α → Logged β) :
    (x >>= f).log = x.log ++ (f x.value).log := rfl

/-- The value, or a warning with the failure's message. -/
def orWarn {ε α : Type} (message : ε → String) : Except ε α → Logged (Option α)
  | .ok a => pure (some a)
  | .error e => ⟨none, [.warn .attempt (message e)]⟩

/-- As `orWarn`, with the default in place of a missing value. -/
def orWarnDefault {ε α : Type} [Inhabited α] (message : ε → String) (r : Except ε α) : Logged α :=
  do return (← orWarn message r).getD default

/-- As `orWarn`, naming what was attempted. -/
def orWarnWith {ε α : Type} (message : ε → String) (what : String) :
    Except ε α → Logged (Option α) :=
  orWarn fun e => what ++ ": " ++ message e

end Logged

end NextBoot
