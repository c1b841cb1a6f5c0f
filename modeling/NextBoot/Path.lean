import NextBoot.Failure
import NextBoot.FileName
import NextBoot.Text.Utf8

/-! Paths: where the walk along a path ends. The only directory whose content matters is the one
that relative paths start from; all directories outside it count as empty. -/
namespace NextBoot

inductive FileKind where
  | file
  | directory
  deriving DecidableEq, Repr

inductive Location where
  /-- In the working directory, at the end of these names. -/
  | inside (names : List String)
  | outside
  deriving DecidableEq, Repr

/-- Why a path leads nowhere. -/
inductive PathError where
  /-- The operating system takes a NUL for the end of the path. -/
  | nul
  | os (errno : Errno)
  deriving DecidableEq, Repr

namespace PathError

/-- The failure to open such a path. -/
def toIoError : PathError → IoError
  | nul => .nulInPath
  | os errno => .os errno

/-- The failure of a system call that takes such a path as it is. -/
def toErrno : PathError → Errno
  | nul => .invalidArgument
  | os errno => errno

end PathError

namespace Location

/-- What lies at a location, where `kind` tells it for the working directory. -/
def kind? (kind : List String → Option FileKind) : Location → Option FileKind
  | inside names => kind names
  | outside => some .directory

def parent : Location → Location
  | inside [] => outside
  | inside names => inside names.dropLast
  | outside => outside

def child (name : String) : Location → Option Location
  | inside names => some (inside (names ++ [name]))
  | outside => none

/-- Follow one part of a path. Even a part that leads nowhere else asks for a directory to stand
in. -/
def follow (kind : List String → Option FileKind) (here : Location) (part : String) :
    Except Errno Location :=
  if here.kind? kind ≠ some .directory then .error .notDirectory
  else if part = "" ∨ part = "." then .ok here
  else if part = ".." then .ok here.parent
  else if FileName.limit < (Text.Utf8.encode part).length then .error .nameTooLong
  else match (here.child part).filter fun there => (there.kind? kind).isSome with
    | some there => .ok there
    | none => .error .noEntry

end Location

namespace Path

/-- The location that a path names. -/
def resolve (kind : List String → Option FileKind) (path : String) :
    Except PathError Location :=
  if '\x00' ∈ path.toList then .error .nul
  else if path = "" then .error (.os .noEntry)
  else if FileName.pathLimit < (Text.Utf8.encode path).length then .error (.os .nameTooLong)
  else
    let start : Location := if path.startsWith "/" then .outside else .inside []
    ((path.splitOn "/").foldlM (Location.follow kind) start).mapError .os

end Path

end NextBoot
