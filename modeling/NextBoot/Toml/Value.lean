/-! Values of a TOML document. Tables and arrays keep how they came to be, which decides what later
statements may add to them. -/
namespace NextBoot.Toml

inductive Origin where
  /-- Named only on the way to another table. -/
  | implied
  | header
  | dotted
  | inline
  deriving DecidableEq, Repr

inductive Value where
  | string (text : String)
  /-- A text may have the shape of an integer and still write no number. -/
  | integer (value : Option Int)
  | float (text : String)
  | boolean (value : Bool)
  | dateTime (text : String)
  /-- An array of tables grows by further headers; one written as a value does not. -/
  | array (growing : Bool) (items : List Value)
  | table (origin : Origin) (entries : List (String × Value))
  deriving Repr

abbrev Entries := List (String × Value)

/-- What finds the table of a document in its text, unless the text is no document. -/
abbrev DocumentReader := String → Option Entries

namespace Entries

/-- Replace the value of a key, or add one for a key that has none. -/
def update (key : String) (f : Option Value → Option Value) : Entries → Option Entries
  | [] => (f none).map fun v => [(key, v)]
  | (k, v) :: rest =>
    if k = key then (f (some v)).map fun v => (k, v) :: rest
    else (update key f rest).map ((k, v) :: ·)

/-- Change the table at a path. Tables missing on the way are made; of an array of tables, the last
one is meant. Inline tables are closed, and a path inside a statement does not lead into a table
that has a header. -/
def descend (dotted : Bool) (f : Origin → Entries → Option Entries) :
    List String → Origin → Entries → Option Entries
  | [], origin, entries => f origin entries
  | key :: path, _, entries =>
    entries.update key fun
      | none =>
        let origin : Origin := if dotted then .dotted else .implied
        (descend dotted f path origin []).map (.table origin)
      | some (.table origin inner) =>
        if origin = .inline ∨ (dotted ∧ origin = .header) then none
        else (descend dotted f path origin inner).map (.table origin)
      | some (.array true items) =>
        match items.getLast? with
        | some (.table origin inner) =>
          (descend dotted f path origin inner).map fun inner =>
            .array true (items.dropLast ++ [.table origin inner])
        | _ => none
      | some _ => none

/-- Add a value under a key that must be new. A dotted path must end in a table that dotted paths
alone have made. -/
def assign (path : List String) (key : String) (value : Value) (origin : Origin)
    (entries : Entries) : Option Entries :=
  descend true (fun parent inner =>
    if (parent = .dotted) = path.isEmpty then none
    else inner.update key fun
      | none => some value
      | some _ => none) path origin entries

/-- A header makes a new table, or one that was so far only implied. -/
def openTable (parents : List String) (key : String) (root : Entries) : Option Entries :=
  descend false (fun _ inner => inner.update key fun
    | none => some (.table .header [])
    | some (.table .implied entries) => some (.table .header entries)
    | some _ => none) parents .implied root

/-- A doubled header adds a table to a growing array. -/
def openElement (parents : List String) (key : String) (root : Entries) : Option Entries :=
  descend false (fun _ inner => inner.update key fun
    | none => some (.array true [.table .header []])
    | some (.array true items) => some (.array true (items ++ [.table .header []]))
    | some _ => none) parents .implied root

/-- Add a value in the table that the last header opened. -/
def assignUnder (current path : List String) (key : String) (value : Value) (root : Entries) :
    Option Entries :=
  descend false (fun origin inner => assign path key value origin inner) current .implied root

end Entries

end NextBoot.Toml
