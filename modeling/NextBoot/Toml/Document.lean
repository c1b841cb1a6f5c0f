import NextBoot.Toml.Lexeme

/-! TOML documents: values, statements, and the table they build. -/
namespace NextBoot.Toml

/-- Items of an array after the opening bracket; a comma may follow the last one. -/
def arrayItems (item : Reader Value) : (bound : Nat) → Reader (List Value)
  | 0 => failure
  | bound + 1 => do
    skipTrivia
    match ← get with
    | ']' :: rest =>
      set rest
      return []
    | _ =>
      let first ← item
      skipTrivia
      match ← get with
      | ',' :: rest =>
        set rest
        return first :: (← arrayItems item bound)
      | ']' :: rest =>
        set rest
        return [first]
      | _ => failure

/-- A key, an equals sign and a value; `skipGap` drops what may stand around the sign. -/
def assignment (skipGap : Reader Unit) (value : Reader Value) :
    Reader (List String × String × Value) := do
  let (path, key) ← dottedKey
  skipGap
  expect '='
  skipGap
  return (path, key, ← value)

/-- Entries of an inline table after the opening brace; a comma may follow the last one. -/
def inlineEntries (value : Reader Value) : (bound : Nat) → Entries → Reader Entries
  | 0, _ => failure
  | bound + 1, entries => do
    skipTrivia
    match ← get with
    | '\x7d' :: rest =>
      set rest
      return entries
    | _ =>
      let (path, key, v) ← assignment skipTrivia value
      let entries ← entries.assign path key v .inline
      skipTrivia
      match ← get with
      | ',' :: rest =>
        set rest
        inlineEntries value bound entries
      | '\x7d' :: rest =>
        set rest
        return entries
      | _ => failure

/-- How deep arrays and inline tables may be nested. -/
def nestingLimit : Nat := 80

/-- A value that holds no others. -/
def simpleValue : Reader Value := do
  match ← get with
  | '"' :: _ | '\'' :: _ => return .string (← anyString)
  | _ => scalar

def value : (depth : Nat) → Reader Value
  | 0 => simpleValue
  | depth + 1 => do
    match ← get with
    | '[' :: rest =>
      set rest
      return .array false (← arrayItems (value depth) (rest.length + 1))
    | '\x7b' :: rest =>
      set rest
      return .table .inline (← inlineEntries (value depth) (rest.length + 1) [])
    | _ => simpleValue

/-- What has been read: the table of all, and the path that the last header opened. -/
structure Document where
  root : Entries
  current : List String

/-- A header or an assignment, or nothing, up to the end of the line. -/
def statement (d : Document) : Reader Document := do
  skipSpaces
  match ← get with
  | [] | '#' :: _ | '\n' :: _ | '\r' :: _ =>
    lineEnd
    return d
  | '[' :: '[' :: rest =>
    set rest
    skipSpaces
    let (parents, key) ← dottedKey
    expect ']'
    expect ']'
    lineEnd
    return ⟨← d.root.openElement parents key, parents ++ [key]⟩
  | '[' :: rest =>
    set rest
    skipSpaces
    let (parents, key) ← dottedKey
    expect ']'
    lineEnd
    return ⟨← d.root.openTable parents key, parents ++ [key]⟩
  | _ =>
    let (path, key, v) ← assignment skipSpaces (value nestingLimit)
    lineEnd
    return { d with root := ← d.root.assignUnder d.current path key v }

def statements : (bound : Nat) → Document → Reader Document
  | 0, _ => failure
  | bound + 1, d => do
    if (← get).isEmpty then return d
    else statements bound (← statement d)

/-- A byte order mark may stand first. -/
def dropMark : List Char → List Char
  | '\uFEFF' :: cs => cs
  | cs => cs

/-- The table of a document, unless the text is no document. -/
def parse? (text : String) : Option Entries :=
  let cs := dropMark text.toList
  ((statements (cs.length + 1) ⟨[], []⟩).run cs).map (·.1.root)

end NextBoot.Toml
