import NextBoot.Path

/-! What a path names, and what opening and reading it gives. -/
namespace NextBoot

inductive PathState where
  | missing
  /-- The path cannot be reached. -/
  | blocked (cause : IoError)
  | directory
  | file (content : Bytes)
  deriving DecidableEq, Repr

namespace PathState

def read (state : PathState) : Except IoError Bytes :=
  match state with
  | missing => .error (.os .noEntry)
  | blocked cause => .error cause
  | directory => .error (.os .isDirectory)
  | file content => .ok content

def readText (state : PathState) : Except IoError String := do
  let content ← state.read
  match Text.Utf8.decode? content with
  | some text => .ok text
  | none => .error .notUtf8

/-- Change the content of a file where it lies. -/
def modify (state : PathState) (f : Bytes → Bytes) : Except IoError PathState := do
  return file (f (← state.read))

def kind? : PathState → Option FileKind
  | directory => some .directory
  | file _ => some .file
  | _ => none

/-- The kinds of what lies in a working directory with these entries. Directories among them are
empty. -/
def kindAmong (entries : List (String × PathState)) : List String → Option FileKind
  | [] => some .directory
  | [name] => (entries.lookup name).bind kind?
  | _ => none

/-- What a path names in a working directory with these entries. -/
def resolve (entries : List (String × PathState)) (path : String) : PathState :=
  match Path.resolve (kindAmong entries) path with
  | .error (.os .noEntry) => missing
  | .error e => blocked e.toIoError
  | .ok (.inside [name]) => (entries.lookup name).getD missing
  | .ok _ => directory

/-- The entries after the file that a path names has got this content. -/
def write (entries : List (String × PathState)) (path : String) (content : Bytes) :
    List (String × PathState) :=
  match Path.resolve (kindAmong entries) path with
  | .ok (.inside [name]) => entries.map fun e => if e.1 = name then (name, file content) else e
  | _ => entries

end PathState

end NextBoot
