import NextBoot.Bytes
import NextBoot.Log
import NextBoot.Text.Number
import NextBoot.Text.Pattern
import NextBoot.Text.Utf8

/-! Log filters, which decide what is shown of a log, and their directives. Each of these says how
talkative some messages may be: those of a source, those within a span and those that have a field,
where any of the three may be left out. A directive reads `source[span\x7bfield=value\x7d]=level`.
-/
namespace NextBoot.Log

/-- A field by its name, and perhaps what its value has to match. -/
structure FieldFilter where
  name : String
  value : Option String
  deriving DecidableEq, Repr

structure Directive where
  source : Option String := none
  span : Option String := none
  field : Option FieldFilter := none
  verbosity : Nat
  deriving DecidableEq, Repr

/-- The verbosity that a word names, by the name of a level in letters of either case or by a
number. -/
def verbosityNamed? (word : String) : Option Nat :=
  let digits := match word.toList with
    | '+' :: digits => digits
    | digits => digits
  if word.toLower = "off" then some 0
  else (([Level.error, .warn, .info, .debug, .trace].find? fun level =>
    level.name.toLower = word.toLower).map Level.verbosity).or
      ((Text.natural? 10 digits).filter (· ≤ Level.trace.verbosity))

/-- The verbosity behind an equals sign; nothing stands for all. -/
def verbosityGiven? (word : String) : Option Nat :=
  if word = "" then some Level.trace.verbosity else verbosityNamed? word

/-- A value is a number or a regular expression. What follows a second equals sign is passed
over. -/
def FieldFilter.ofText? (text : String) : Option FieldFilter :=
  match text.splitOn "=" with
  | [""] => none
  | name :: value :: _ =>
    if Text.isDecimal value.toList || Text.isPattern value.toList then some ⟨name, some value⟩
    else none
  | name :: _ => some ⟨name, none⟩
  | [] => none

namespace Directive

/-- Whether the name of a source may begin with this character. -/
def startsSource (c : Char) : Bool :=
  c == '-' || c == ':' || c == '_' || Text.isAlphabetic c || Text.isNumeric c

/-- A directive as it is written. Its parts are found without the blanks around it, but they are
then taken out of the whole at the same places, so that blanks before it shift every part. A place is
a number of bytes. -/
structure Written where
  whole : String
  trimmed : List Char

namespace Written

def ofText (text : String) : Written := ⟨text, Text.trimChars text.toList⟩

def byteCount (cs : List Char) : Nat := (String.ofList cs).utf8ByteSize

/-- The part from one place up to another. Both must be where a character ends or begins. -/
def part? (w : Written) (start finish : Nat) : Option String :=
  Text.Utf8.decode? ((Text.Utf8.encode w.whole).slice start (finish - start))

def from? (w : Written) (start : Nat) : Option String := w.part? start w.whole.utf8ByteSize

/-- The verbosity in what is left over at `start` of a directive. -/
def level? (w : Written) (start : Nat) : List Char → Option Nat
  | [] => some Level.trace.verbosity
  | '=' :: _ => (w.from? (start + 1)).bind verbosityGiven?
  | _ => none

/-- The directive with this source and the span and fields that stand behind the bracket at
`start`. -/
def bracketed? (w : Written) (source : Option String) (start : Nat) (cs : List Char) :
    Option Directive := do
  let name := cs.takeWhile fun c => c ≠ ']' ∧ c ≠ '\x7b'
  let finish := start + byteCount name
  let span ← w.part? start finish
  match cs.drop name.length with
  | ']' :: rest =>
    return { source, span := some span, verbosity := ← w.level? (finish + 1) rest }
  | '\x7b' :: rest =>
    let field := rest.takeWhile (· ≠ '\x7d')
    let close := finish + 1 + byteCount field
    let filter ← (w.part? (finish + 1) close).bind FieldFilter.ofText?
    match rest.drop field.length with
    | '\x7d' :: ']' :: rest =>
      return { source, span := if span = "" then none else some span, field := some filter
               verbosity := ← w.level? (close + 2) rest }
    | _ => none
  | _ => none

end Written

/-- A word alone is a verbosity for all messages, or else a source. -/
def ofText? (text : String) : Option Directive :=
  let w := Written.ofText text
  match w.trimmed with
  | [] => none
  | '[' :: rest => w.bracketed? none 1 rest
  | c :: cs =>
    if startsSource c then
      let name := (c :: cs).takeWhile fun c => c ≠ '=' ∧ c ≠ '['
      let finish := Written.byteCount name
      match (c :: cs).drop name.length with
      | [] =>
        match verbosityNamed? text with
        | some verbosity => some { verbosity }
        | none => some { source := some text, verbosity := Level.trace.verbosity }
      | '[' :: rest => do
        let source ← w.part? 0 finish
        w.bracketed? (some source) (finish + 1) rest
      | rest => do
        return { source := some (← w.part? 0 finish), verbosity := ← w.level? finish rest }
    else none

/-- Whether it is about this message. A source is told by how its name begins. Messages arise in no
span, and only spans have values to match. -/
def concerns (d : Directive) (m : Message) : Bool :=
  d.span.isNone && d.source.all (·.toList.isPrefixOf m.source.name.toList) &&
    d.field.all fun field => field.value.isNone && m.fieldNames.contains field.name

/-- The bytes of the source's name, where no source is less than any. -/
def sourceSize (d : Directive) : Nat :=
  match d.source with
  | none => 0
  | some name => name.utf8ByteSize + 1

def fieldName (d : Directive) : Option String := d.field.map (·.name)

/-- Whether `a` says no more about a message than `b`, which names a longer source, or an equal one
and a field where `a` names none, or one that is not later in order. -/
def isAsGeneral (a b : Directive) : Bool :=
  a.sourceSize < b.sourceSize ||
    a.sourceSize == b.sourceSize && match a.fieldName, b.fieldName with
      | none, _ => true
      | some _, none => false
      | some x, some y => x ≤ y

end Directive

abbrev Filter := List Directive

namespace Filter

/-- Directives are separated by commas, and all of them must be readable. -/
def ofText? (text : String) : Option Filter :=
  ((text.splitOn ",").filter (· ≠ "")).mapM Directive.ofText?

/-- The directive that says most about a message; of those that say the same, the last. -/
def decisive? (f : Filter) (m : Message) : Option Directive :=
  (f.filter (·.concerns m)).foldl (fun best d =>
    match best with
    | none => some d
    | some b => some (if b.isAsGeneral d then d else b)) none

/-- A message that no directive is about is not shown. -/
def shows (f : Filter) (m : Message) : Bool :=
  (f.decisive? m).any fun d => m.level.verbosity ≤ d.verbosity

/-- Everything from notices up. -/
def usual : Filter := [{ verbosity := Level.info.verbosity }]

end Filter

end NextBoot.Log
