import NextBoot.Path

/-! A directory of files, looked up by names that are bytes, and the calls that write to one. -/
namespace NextBoot.Firmware

inductive Node where
  | file (content : Bytes)
  | directory
  deriving DecidableEq, Repr

def Node.kind : Node → FileKind
  | file _ => .file
  | directory => .directory

structure Directory where
  entries : List (Bytes × Node)
  /-- Why the names in it cannot be listed, if they cannot. -/
  unlistable : Option Errno := none
  distinct : (entries.map Prod.fst).Nodup

namespace Directory

def empty : Directory := { entries := [], distinct := by simp }

def get? (d : Directory) (name : Bytes) : Option Node := d.entries.lookup name

def erase (d : Directory) (name : Bytes) : Directory where
  entries := d.entries.filter fun e => e.1 ≠ name
  unlistable := d.unlistable
  distinct := d.distinct.sublist (List.filter_sublist.map _)

def insert (d : Directory) (name : Bytes) (node : Node) : Directory where
  entries := (name, node) :: (d.erase name).entries
  unlistable := d.unlistable
  distinct := by
    refine List.nodup_cons.mpr ⟨?_, (d.erase name).distinct⟩
    simp [erase]

def ofList (nodes : List (Bytes × Node)) : Directory :=
  nodes.foldl (fun d e => d.insert e.1 e.2) empty

theorem lookup_filter_ne (l : List (Bytes × Node)) (name other : Bytes) :
    (l.filter fun e => e.1 ≠ name).lookup other =
      if other = name then none else l.lookup other := by
  induction l with
  | nil => simp
  | cons e l ih =>
    obtain ⟨key, node⟩ := e
    by_cases ho : other = key
    · by_cases hk : key = name
      · subst hk ho
        rw [List.filter_cons_of_neg (by simp), ih]
        simp
      · subst ho
        rw [List.filter_cons_of_pos (by simpa using hk)]
        simp [hk]
    · have hf : (other == key) = false := by simpa using ho
      by_cases hk : key = name
      · rw [List.filter_cons_of_neg (by simpa using hk), ih, List.lookup_cons, hf]
      · rw [List.filter_cons_of_pos (by simpa using hk), List.lookup_cons, hf, ih,
          List.lookup_cons, hf]

@[simp] theorem get?_erase (d : Directory) (name other : Bytes) :
    (d.erase name).get? other = if other = name then none else d.get? other :=
  lookup_filter_ne d.entries name other

@[simp] theorem get?_insert (d : Directory) (name other : Bytes) (node : Node) :
    (d.insert name node).get? other = if other = name then some node else d.get? other := by
  have h : (d.erase name).entries.lookup other = _ := get?_erase d name other
  by_cases ho : other = name
  · subst ho
    simp [get?, insert]
  · have hf : (other == name) = false := by simpa using ho
    rw [get?, insert, List.lookup_cons, hf]
    exact h.trans (by simp [ho])

theorem insert_insert (d : Directory) (name : Bytes) (node node' : Node) :
    (d.insert name node).insert name node' = d.insert name node' := by
  simp [insert, erase]

/-- All names with what they name. -/
def list (d : Directory) : Except Errno (List (Bytes × Node)) :=
  match d.unlistable with
  | some errno => .error errno
  | none => .ok d.entries

/-- Opening for reading, which a directory inside this one allows. -/
def openNode (d : Directory) (name : Bytes) : Except Errno Node := do
  FileName.check name
  match d.get? name with
  | none => throw .noEntry
  | some node => return node

def readFile (d : Directory) (name : Bytes) : Except Errno Bytes := do
  match ← d.openNode name with
  | .directory => throw .isDirectory
  | .file content => return content

/-- Opening for writing, which creates the file or empties the one that is there. -/
def create (d : Directory) (name : Bytes) : Except Errno Directory := do
  FileName.check name
  if d.get? name = some .directory then throw .isDirectory
  return d.insert name (.file [])

def removeFile (d : Directory) (name : Bytes) : Except Errno Directory := do
  FileName.checkRemoval name
  match d.get? name with
  | none => throw .noEntry
  | some .directory => throw .isDirectory
  | some (.file _) => return d.erase name

end Directory

/-! ### Writing to an open file -/

/-- What one call to write a record answers: why it failed, or how many of the bytes it took. -/
abbrev WriteAnswer (record : Bytes) := Except Errno (Fin (record.length + 1))

/-- What is in a file that was empty before the call. -/
def WriteAnswer.taken {record : Bytes} : WriteAnswer record → Bytes
  | .error _ => []
  | .ok count => record.take count

/-- The answers to calls that write a record to a file, by the number of calls before, and the number
of calls made so far. -/
structure WriteCalls where
  answer : Nat → Bytes → (record : Bytes) → WriteAnswer record
  made : Nat := 0

namespace WriteCalls

/-- Every record is taken whole. -/
def whole : WriteCalls where
  answer _ _ record := .ok (Fin.last record.length)

def call (w : WriteCalls) (file record : Bytes) : WriteAnswer record × WriteCalls :=
  (w.answer w.made file record, { w with made := w.made + 1 })

end WriteCalls

/-- What a path to a directory turns out to name. -/
inductive Place where
  | directory (content : Directory)
  | file
  | unreachable (cause : PathError)

namespace Place

/-- The kinds of what lies in a working directory that holds a single directory. The directories
inside that one are empty. -/
def kindAround (name : String) (content : Directory) : List String → Option FileKind
  | [] => some .directory
  | [outer] => if outer = name then some .directory else none
  | [outer, inner] =>
    if outer = name then (content.get? (Text.Utf8.encode inner)).map Node.kind else none
  | _ => none

/-- What `path` names where a single directory lies in the working directory. -/
def resolve (name : String) (content : Directory) (path : String) : Place :=
  match Path.resolve (kindAround name content) path with
  | .error e => unreachable e
  | .ok there =>
    if there = .inside [name] then directory content
    else if there.kind? (kindAround name content) = some .file then file
    else directory .empty

end Place

end NextBoot.Firmware
