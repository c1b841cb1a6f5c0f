import NextBoot.Kexec.Loader

/-! What the words of a command line ask for. -/
namespace NextBoot

open NextBoot.Kexec (Protocol)

inductive Invocation where
  | kexec (image : String) (extra : List String) (protocol : Option Protocol)
  | readCommandLine (image : String)
  | patchCommandLine (image cmdline : String)
  /-- Without a description, the one in the settings is meant. -/
  | promote (description : Option String)
  | showBootOrder
  deriving DecidableEq, Repr

inductive UsageError where
  | displayHelp
  | displayVersion
  | nothingAsked
  | invalidSubcommand
  | unknownArgument
  | invalidValue
  | tooManyValues
  | argumentConflict
  | missingArgument
  deriving DecidableEq, Repr

/-- How a single word reads where options may stand. -/
inductive Word where
  /-- From here on nothing is an option. -/
  | escape
  | long (name : String) (value : Option String)
  | short (letter : Char)
  | plain
  deriving DecidableEq, Repr

/-- A lone hyphen is no option. -/
def Word.ofText (text : String) : Word :=
  match text.toList with
  | ['-', '-'] => escape
  | '-' :: '-' :: cs =>
    let name := String.ofList (cs.takeWhile (· ≠ '='))
    match cs.dropWhile (· ≠ '=') with
    | [] => long name none
    | _ :: value => long name (some (String.ofList value))
  | '-' :: letter :: _ => short letter
  | _ => plain

namespace Invocation

inductive OptionName where
  | extraArgument
  | protocol
  | description
  deriving DecidableEq, Repr

def OptionName.text : OptionName → String
  | extraArgument => "extra-arg"
  | protocol => "protocol"
  | description => "description"

/-- What has been given so far, in the order of the words. -/
structure Given where
  operands : List String := []
  extra : List String := []
  protocol : Option Protocol := none
  description : Option String := none
  deriving DecidableEq, Repr

/-- Only extra arguments may be given repeatedly. -/
def Given.add (g : Given) (name : OptionName) (value : String) : Except UsageError Given :=
  match name with
  | .extraArgument => .ok { g with extra := g.extra ++ [value] }
  | .protocol =>
    if g.protocol.isSome then .error .argumentConflict
    else match Protocol.ofName? value with
      | some p => .ok { g with protocol := some p }
      | none => .error .invalidValue
  | .description =>
    if g.description.isSome then .error .argumentConflict
    else .ok { g with description := some value }

/-- What a subcommand takes. -/
structure Form where
  options : List OptionName
  operands : Nat

/-- The words read so far. An option written as two words is pending until the next option or
operand, or the end; only then its value counts. -/
structure Reading where
  given : Given := {}
  pending : Option (OptionName × Option String) := none
  escaped : Bool := false

namespace Reading

def settle (r : Reading) : Except UsageError Reading :=
  match r.pending with
  | none => .ok r
  | some (_, none) => .error .invalidValue
  | some (name, some value) => do
    return { r with given := ← r.given.add name value, pending := none }

def operand (form : Form) (text : String) (r : Reading) : Except UsageError Reading :=
  if r.given.operands.length < form.operands then do
    let r ← r.settle
    return { r with given := { r.given with operands := r.given.operands ++ [text] } }
  else .error .unknownArgument

def long (form : Form) (name : String) (value : Option String) (r : Reading) :
    Except UsageError Reading :=
  if name = "help" then
    match value with
    | none => do
      let _ ← r.settle
      throw .displayHelp
    | some _ => .error .tooManyValues
  else match form.options.find? (·.text = name) with
    | none => .error .unknownArgument
    | some option => do
      let r ← r.settle
      match value with
      | none => return { r with pending := some (option, none) }
      | some value => return { r with given := ← r.given.add option value }

/-- A word that is no option: the value of the pending option, if that has none yet, or an
operand. -/
def plain (form : Form) (text : String) (r : Reading) : Except UsageError Reading :=
  match r.pending with
  | some (option, none) => .ok { r with pending := some (option, some text) }
  | _ => r.operand form text

def word (form : Form) (text : String) (r : Reading) : Except UsageError Reading :=
  if r.escaped then r.operand form text
  else match Word.ofText text with
    | .escape => .ok { r with escaped := true }
    | .long name value => r.long form name value
    | .short letter =>
      if letter = 'h' then do
        let _ ← r.settle
        throw .displayHelp
      else .error .unknownArgument
    | .plain => r.plain form text

end Reading

inductive Subcommand where
  | kexec
  | readCommandLine
  | patchCommandLine
  | promote
  | showBootOrder
  deriving DecidableEq, Repr

namespace Subcommand

def all : List Subcommand := [kexec, readCommandLine, patchCommandLine, promote, showBootOrder]

def name : Subcommand → String
  | kexec => "kexec"
  | readCommandLine => "read-cmdline"
  | patchCommandLine => "patch-cmdline"
  | promote => "promote-boot-entry"
  | showBootOrder => "show-boot-order"

def ofName? (text : String) : Option Subcommand := all.find? (·.name = text)

def form : Subcommand → Form
  | kexec => ⟨[.extraArgument, .protocol], 1⟩
  | readCommandLine => ⟨[], 1⟩
  | patchCommandLine => ⟨[], 2⟩
  | promote => ⟨[.description], 0⟩
  | showBootOrder => ⟨[], 0⟩

/-- What a subcommand asks for with all that it was given. -/
def invocation (g : Given) : Subcommand → Invocation
  | kexec => .kexec (g.operands.headD "") g.extra g.protocol
  | readCommandLine => .readCommandLine (g.operands.headD "")
  | patchCommandLine => .patchCommandLine (g.operands.headD "") (g.operands.getD 1 "")
  | promote => .promote g.description
  | showBootOrder => .showBootOrder

end Subcommand

/-- The name under which help is asked for. -/
def helpName : String := "help"

/-- All names that a first word can have. -/
def names : List String := Subcommand.all.map (·.name) ++ [helpName]

/-- Help on a subcommand. None of them has subcommands of its own. -/
def helpOn : List String → UsageError
  | [] => .displayHelp
  | [text] => if text ∈ names then .displayHelp else .invalidSubcommand
  | _ => .invalidSubcommand

/-- How far the words have been read. -/
inductive Stage where
  | start
  /-- Nothing is an option any more, and no subcommand was named. -/
  | escaped
  | inside (subcommand : Subcommand) (reading : Reading)
  | help (asked : List String)

namespace Stage

/-- The first word. -/
def first (text : String) : Except UsageError Stage :=
  match Word.ofText text with
  | .escape => .ok escaped
  | .long name value =>
    if name = "help" then .error (if value.isSome then .tooManyValues else .displayHelp)
    else if name = "version" then
      .error (if value.isSome then .tooManyValues else .displayVersion)
    else .error .unknownArgument
  | .short letter =>
    if letter = 'h' then .error .displayHelp
    else if letter = 'V' then .error .displayVersion
    else .error .unknownArgument
  | .plain =>
    match Subcommand.ofName? text with
    | some subcommand => .ok (inside subcommand {})
    | none => if text = helpName then .ok (help []) else .error .invalidSubcommand

def word (stage : Stage) (text : String) : Except UsageError Stage :=
  match stage with
  | start => first text
  | escaped => .error (if text ∈ names then .unknownArgument else .invalidSubcommand)
  | inside subcommand r => do return inside subcommand (← r.word subcommand.form text)
  | help asked => .ok (help (asked ++ [text]))

/-- A subcommand must have all its operands. -/
def finish : Stage → Except UsageError Invocation
  | start | escaped => .error .nothingAsked
  | inside subcommand r => do
    let r ← r.settle
    if r.given.operands.length < subcommand.form.operands then throw .missingArgument
    return subcommand.invocation r.given
  | help asked => .error (helpOn asked)

end Stage

end Invocation

/-- A parser reads one word after the other, from the left. -/
structure ArgumentParser where
  State : Type
  start : State
  word : State → String → Except UsageError State
  finish : State → Except UsageError Invocation

namespace ArgumentParser

/-- What comes of the words from a state on. -/
def readFrom (p : ArgumentParser) (s : p.State) (words : List String) :
    Except UsageError Invocation := do
  p.finish (← words.foldlM p.word s)

def read (p : ArgumentParser) (words : List String) : Except UsageError Invocation :=
  p.readFrom p.start words

end ArgumentParser

namespace Invocation

def parser : ArgumentParser := ⟨Stage, .start, Stage.word, Stage.finish⟩

/-- What the words after the name of the program ask for. -/
def ofWords (words : List String) : Except UsageError Invocation := parser.read words

end Invocation

end NextBoot
