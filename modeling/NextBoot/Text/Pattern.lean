import NextBoot.Text.Alphabetic
import NextBoot.Text.Characters
import NextBoot.Text.Number

/-! Regular expressions: which texts are one. Nothing is matched with them here, so that of a part
that has been read only its depth is kept. Refused are also the bounds of words of any script, and
what could match a part of a character. -/
namespace NextBoot.Text.Pattern

/-- Settings, which a pattern can change for a part of itself. -/
structure Modes where
  /-- Whether blanks and comments may stand between the parts. -/
  spaced : Bool := false
  /-- Whether it is about characters and not about bytes. -/
  unicode : Bool := true
  deriving DecidableEq, Repr

/-- What follows blanks and comments, each of which lasts to the end of its line. -/
def afterBlanks : (inComment : Bool) → List Char → List Char
  | _, [] => []
  | true, c :: cs => afterBlanks (c != '\n') cs
  | false, c :: cs =>
    if c = '#' then afterBlanks true cs else if isBlank c then afterBlanks false cs else c :: cs

namespace Modes

def skip (m : Modes) (cs : List Char) : List Char := if m.spaced then afterBlanks false cs else cs

/-- The next character behind blanks and the sign of a comment. -/
def peek (m : Modes) (cs : List Char) : Option Char :=
  if m.spaced then
    match cs.dropWhile isBlank with
    | '#' :: cs => (cs.dropWhile isBlank).head?
    | cs => cs.head?
  else cs.head?

def set (m : Modes) (flag : Char) (on : Bool) : Modes :=
  match flag with
  | 'x' => { m with spaced := on }
  | 'u' => { m with unicode := on }
  | _ => m

/-- Whether a character with this code may stand for itself. Two digits write a byte if the pattern
is about bytes. -/
def admits (m : Modes) (code : Nat) (twoDigits : Bool) : Bool :=
  m.unicode || !twoDigits || code < 0x80

/-- Whether a character with this code may stand in a class. -/
def admitsMember (m : Modes) (code : Nat) : Bool := m.unicode || code < 0x80

/-- Whether a class may be negated. One of bytes would then hold parts of characters. -/
def admitsNegation (m : Modes) (negated : Bool) : Bool := m.unicode || !negated

end Modes

/-- The number that the next `count` hexadecimal digits write, and what follows them. -/
def readHex (m : Modes) : (count n : Nat) → List Char → Option (Nat × List Char)
  | 0, n, cs => some (n, cs)
  | count + 1, n, cs =>
    match m.skip cs with
    | [] => none
    | c :: cs => (hexValue? c).bind fun d => readHex m count (n * 16 + d) cs

/-- What a backslash and the characters after it stand for. -/
inductive Escape where
  | character (code : Nat) (twoDigits : Bool)
  | shorthand
  | anchor
  deriving DecidableEq, Repr

/-- A character by its code in hexadecimal digits. -/
def readCode (m : Modes) (digits : Nat) (cs : List Char) : Option (Escape × List Char) := do
  let (code, cs) ← readHex m digits 0 cs
  if code.isValidChar then some (.character code (digits == 2), cs) else none

/-- Whether a character stands for itself behind a backslash. -/
def isEscapable (c : Char) : Bool :=
  c.toNat < 0x80 && !c.isAlphanum && c != '<' && c != '>'

/-- The characters that have a letter of their own. -/
def namedCode? : Char → Option Nat
  | 'a' => some 7
  | 't' => some 9
  | 'n' => some 10
  | 'v' => some 11
  | 'f' => some 12
  | 'r' => some 13
  | _ => none

/-- Whether a letter of either case names a category of characters. -/
def namesCategory (c : Char) : Bool := c.toLower ∈ ['c', 'l', 'm', 'n', 'p', 's', 'z']

/-- Read what follows a backslash. -/
def readEscape (m : Modes) : List Char → Option (Escape × List Char)
  | [] => none
  | c :: cs =>
    match c with
    | 'x' => readCode m 2 cs
    | 'u' => readCode m 4 cs
    | 'U' => readCode m 8 cs
    | 'd' | 's' | 'w' => some (.shorthand, cs)
    | 'D' | 'S' | 'W' => if m.unicode then some (.shorthand, cs) else none
    | 'p' | 'P' =>
      match m.skip cs with
      | [] => none
      | c :: cs => if m.unicode && namesCategory c then some (.shorthand, cs) else none
    | 'A' | 'z' => some (.anchor, cs)
    | 'b' | 'B' | '<' | '>' => if m.unicode then none else some (.anchor, cs)
    | c =>
      if isEscapable c then some (.character c.toNat false, cs)
      else (namedCode? c).map fun code => (.character code false, cs)

/-- Members of a class that stand side by side: how many, and how deep the deepest is. -/
structure Members where
  count : Nat := 0
  deepest : Nat := 0
  deriving DecidableEq, Repr

namespace Members

def add (u : Members) (depth : Nat) : Members := ⟨u.count + 1, max u.deepest depth⟩

def depth (u : Members) : Nat := if u.count ≤ 1 then u.deepest else u.deepest + 1

/-- The depth together with what stands before an operator. -/
def depthAfter (u : Members) (left : Option Nat) : Nat :=
  match left with
  | none => u.depth
  | some depth => max depth u.depth + 1

end Members

def classNames : List String :=
  ["alnum", "alpha", "ascii", "blank", "cntrl", "digit", "graph", "lower", "print", "punct",
    "space", "upper", "word", "xdigit"]

/-- A caret, if there is one, and what follows. -/
def readCaret (cs : List Char) : Bool × List Char :=
  match cs with
  | '^' :: cs => (true, cs)
  | cs => (false, cs)

/-- Read a class that has a name, which stands between colons, behind its bracket. -/
def readNamedClass (cs : List Char) : Option (Bool × List Char) :=
  match cs with
  | ':' :: cs =>
    let (negated, cs) := readCaret cs
    match cs.dropWhile (· ≠ ':') with
    | ':' :: ']' :: rest =>
      if String.ofList (cs.takeWhile (· ≠ ':')) ∈ classNames then some (negated, rest) else none
    | _ => none
  | _ => none

/-- Read a character of a class, or what stands for some. -/
def readItem (m : Modes) : List Char → Option (Escape × List Char)
  | [] => none
  | '\\' :: cs => readEscape m cs
  | c :: cs => some (.character c.toNat false, cs)

/-- Read the end of a range that begins with `low`. -/
def readRangeEnd (m : Modes) (low : Escape) (cs : List Char) : Option (List Char) :=
  match low, readItem m (m.skip cs) with
  | .character a _, some (.character b _, rest) =>
    if a ≤ b && m.admitsMember a && m.admitsMember b then some rest else none
  | _, _ => none

/-- Read a range, or a member that is none. A dash makes no range before a dash or at the end. -/
def readMember (m : Modes) (cs : List Char) : Option (List Char) := do
  let (item, cs) ← readItem m cs
  let rest := m.skip cs
  let more := match rest with
    | '-' :: more => if m.peek more = some ']' ∨ m.peek more = some '-' then none else some more
    | _ => none
  match more, item with
  | some more, low => readRangeEnd m low more
  | none, .character code _ => if m.admitsMember code then some rest else none
  | none, .shorthand => some rest
  | none, .anchor => none

/-- Whether two signs are an operator on classes. -/
def isSetOperator (a b : Char) : Bool := a == b && a ∈ ['&', '-', '~']

/-- Read a class up to its closing bracket. Dashes at its start stand for themselves, and so does a
closing bracket there. `left` is the depth of what stands before an operator. -/
def readClass (m : Modes) : (fuel : Nat) → (atStart : Bool) → (left : Option Nat) → Members →
    List Char → Option (Nat × List Char)
  | 0, _, _, _, _ => none
  | fuel + 1, atStart, left, members, cs =>
    match atStart, m.skip cs with
    | true, '-' :: rest => readClass m fuel true left (members.add 0) rest
    | atStart, ']' :: rest =>
      if atStart && members.count = 0 then readClass m fuel false left (members.add 0) rest
      else some (members.depthAfter left, rest)
    | _, '[' :: rest =>
      match readNamedClass rest with
      | some (negated, rest) =>
        if m.admitsNegation negated then readClass m fuel false left (members.add 0) rest
        else none
      | none => do
        let (negated, rest) := readCaret (m.skip rest)
        let (depth, rest) ← readClass m fuel true none {} rest
        if m.admitsNegation negated then
          readClass m fuel false left (members.add (depth + 1)) rest
        else none
    | _, a :: b :: rest =>
      if isSetOperator a b then readClass m fuel false (some (members.depthAfter left)) {} rest
      else do readClass m fuel false left (members.add 0) (← readMember m (a :: b :: rest))
    | _, rest => do readClass m fuel false left (members.add 0) (← readMember m rest)

/-- A part of a pattern, and whether it can be repeated. -/
structure Item where
  depth : Nat
  repeatable : Bool
  deriving DecidableEq, Repr

/-- The depth of parts that are one whole together. -/
def depthOf : List Nat → Nat
  | [] => 0
  | [d] => d
  | ds => ds.foldl max 0 + 1

/-- What a bracket opens. -/
inductive Opening where
  | settings (modes : Modes) (rest : List Char)
  | group (modes : Modes) (names : List (List Char)) (rest : List Char)
  deriving DecidableEq, Repr

/-- Read settings up to the colon before a group, or up to the bracket after them. Those behind a
dash are taken back. -/
def readSettings (names : List (List Char)) :
    Modes → (seen : List Char) → List Char → Option Opening
  | _, _, [] => none
  | m, seen, c :: cs =>
    let complete := seen.head? ≠ some '-'
    match c with
    | ':' => if complete then some (.group m names cs) else none
    | ')' => if complete ∧ seen ≠ [] then some (.settings m cs) else none
    | c =>
      if c ∈ ['i', 'm', 's', 'U', 'u', 'R', 'x', '-'] ∧ c ∉ seen then
        readSettings names (m.set c (!seen.contains '-')) (c :: seen) cs
      else none

def isName : List Char → Bool
  | [] => false
  | c :: cs =>
    (c == '_' || isAlphabetic c) &&
      cs.all fun c => c ∈ ['_', '.', '[', ']'] || isAlphabetic c || isNumeric c

/-- Read the name of a group. No two have the same. -/
def readName (m : Modes) (names : List (List Char)) (cs : List Char) : Option Opening :=
  let name := cs.takeWhile (· ≠ '>')
  match cs.dropWhile (· ≠ '>') with
  | [] => none
  | _ :: rest => if isName name ∧ name ∉ names then some (.group m (name :: names) rest) else none

/-- Read what follows the bracket that opens a group. -/
def readOpening (m : Modes) (names : List (List Char)) (cs : List Char) : Option Opening :=
  match m.skip cs with
  | '?' :: 'P' :: '<' :: cs => readName m names cs
  | '?' :: '<' :: cs => readName m names cs
  | '?' :: cs => readSettings names m [] cs
  | cs => some (.group m names cs)

/-- Read alternatives up to the bracket that closes their group, or to the end. `branches` and
`items` are what came before, the last first. -/
def readAlternatives : (fuel : Nat) → Modes → (names : List (List Char)) → (branches : List Nat) →
    (items : List Item) → List Char → Option (Nat × List (List Char) × List Char)
  | 0, _, _, _, _, _ => none
  | fuel + 1, m, names, branches, items, cs =>
    let branch := depthOf (items.map (·.depth))
    let next := fun item rest => readAlternatives fuel m names branches (item :: items) rest
    match m.skip cs with
    | [] => some (depthOf (branch :: branches), names, [])
    | ')' :: rest => some (depthOf (branch :: branches), names, ')' :: rest)
    | '|' :: rest => readAlternatives fuel m names (branch :: branches) [] rest
    | '(' :: rest => do
      match ← readOpening m names rest with
      | .settings m rest => readAlternatives fuel m names branches (⟨0, false⟩ :: items) rest
      | .group inner names rest =>
        match ← readAlternatives fuel inner names [] [] rest with
        | (depth, names, ')' :: rest) =>
          readAlternatives fuel m names branches (⟨depth + 1, true⟩ :: items) rest
        | _ => none
    | '[' :: rest => do
      let (negated, rest) := readCaret (m.skip rest)
      let (depth, rest) ← readClass m rest.length.succ true none {} rest
      if m.admitsNegation negated then next ⟨depth + 1, true⟩ rest else none
    | '\\' :: rest => do
      match ← readEscape m rest with
      | (.character code twoDigits, rest) =>
        if m.admits code twoDigits then next ⟨0, true⟩ rest else none
      | (_, rest) => next ⟨0, true⟩ rest
    | '{' :: _ => none
    | '.' :: rest => if m.unicode then next ⟨0, true⟩ rest else none
    | c :: rest =>
      if c ∈ ['?', '*', '+'] then
        match items with
        | ⟨depth, true⟩ :: items =>
          readAlternatives fuel m names branches (⟨depth + 1, true⟩ :: items)
            (if rest.head? = some '?' then rest.drop 1 else rest)
        | _ => none
      else if c ∈ ['^', '$'] || m.admits c.toNat false then next ⟨0, true⟩ rest
      else none

/-- How deep the parts of a pattern may nest. -/
def depthLimit : Nat := 250

end Pattern

/-- Whether a text without commas and closing braces is a regular expression. A count of repetitions
stands in braces, so that there is none. -/
def isPattern (cs : List Char) : Bool :=
  match Pattern.readAlternatives (cs.length + 1) {} [] [] [] cs with
  | some (depth, _, []) => depth ≤ Pattern.depthLimit
  | _ => false

end NextBoot.Text
