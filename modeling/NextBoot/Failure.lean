import NextBoot.Errno
import NextBoot.Payload

/-! Why reading or writing bytes failed, and failures together with what was being done when they
arose. -/
namespace NextBoot

inductive IoError where
  | os (errno : Errno)
  | notUtf8
  | nulInPath
  /-- The reader of a payload was closed before. -/
  | sectionClosed (payload : Payload)
  /-- The image at `path` ends inside a payload. -/
  | sectionTruncated (path : String) (payload : Payload)
  /-- A text with a NUL at this byte cannot be a NUL-terminated string. -/
  | nulByte (position : Nat)
  /-- A single call took less than it was given. -/
  | shortWrite (taken size : Nat)
  /-- A source of bytes failed for reasons of its own. -/
  | other (text : String)
  deriving DecidableEq, Repr

namespace IoError

def message : IoError → String
  | os errno => errno.message
  | notUtf8 => "stream did not contain valid UTF-8"
  | nulInPath => "file name contained an unexpected NUL byte"
  | sectionClosed payload => "section " ++ payload.sectionName ++ " has been closed"
  | sectionTruncated path payload =>
    path ++ " truncated while reading section " ++ payload.sectionName
  | nulByte position => "nul byte found in provided data at position: " ++ toString position
  | shortWrite taken size =>
    "short write of " ++ toString taken ++ "/" ++ toString size ++ " bytes"
  | other text => text

end IoError

/-- The cause, and the activities around it from the outside in. -/
structure Failure (ε : Type) where
  contexts : List String
  cause : ε
  deriving DecidableEq, Repr

namespace Failure

def of {ε : Type} (cause : ε) : Failure ε := ⟨[], cause⟩

def within {ε : Type} (context : String) (f : Failure ε) : Failure ε :=
  { f with contexts := context :: f.contexts }

def map {ε ε' : Type} (g : ε → ε') (f : Failure ε) : Failure ε' := ⟨f.contexts, g f.cause⟩

/-- Every context and then the cause, separated by colons. -/
def render {ε : Type} (message : ε → String) (f : Failure ε) : String :=
  ": ".intercalate (f.contexts ++ [message f.cause])

end Failure

end NextBoot
