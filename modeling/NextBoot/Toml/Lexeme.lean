import NextBoot.Toml.Scalar

/-! The smallest parts of a TOML document: blanks, line ends, strings and keys. Each function takes
a part off the front of the text, or fails. -/
namespace NextBoot.Toml

abbrev Reader := StateT (List Char) Option

def isSpace (c : Char) : Bool := c == ' ' || c == '\t'

/-- Control characters other than the tab stand nowhere but at line ends. -/
def isPlain (c : Char) : Bool := c == '\t' || (0x20 ≤ c.toNat && c.toNat != 0x7F)

def skipSpaces : Reader Unit := modify (·.dropWhile isSpace)

/-- Take a character off that must come next. -/
def expect (c : Char) : Reader Unit := do
  match ← get with
  | d :: rest => if d = c then set rest else failure
  | [] => failure

def newline? : List Char → Option (List Char)
  | '\n' :: rest => some rest
  | '\r' :: '\n' :: rest => some rest
  | _ => none

/-- Blanks, a comment, and the end of the line or of the text. -/
def lineEnd : Reader Unit := do
  skipSpaces
  let text ← get
  let rest := match text with
    | '#' :: comment => comment.dropWhile isPlain
    | text => text
  match rest with
  | [] => set ([] : List Char)
  | rest => set (← newline? rest)

/-- Drop blanks, line ends and comments. -/
def dropTrivia? : (inComment : Bool) → List Char → Option (List Char)
  | _, [] => some []
  | _, '\n' :: rest => dropTrivia? false rest
  | _, '\r' :: '\n' :: rest => dropTrivia? false rest
  | true, c :: rest => if isPlain c then dropTrivia? true rest else none
  | false, '#' :: rest => dropTrivia? true rest
  | false, c :: rest => if isSpace c then dropTrivia? false rest else some (c :: rest)

def skipTrivia : Reader Unit := do set (← dropTrivia? false (← get))

def hexNumber? (cs : List Char) : Option Nat :=
  (cs.mapM Text.hexValue?).map (·.foldl (fun n d => n * 16 + d) 0)

/-- The character with a code that must be a scalar value. -/
def scalarValue? (cs : List Char) : Option Char := do
  let n ← hexNumber? cs
  if n.isValidChar then some (Char.ofNat n) else none

/-- The character that an escape of one letter stands for. -/
def simpleEscape? : Char → Option Char
  | 'b' => some '\x08'
  | 'e' => some '\x1b'
  | 't' => some '\t'
  | 'n' => some '\n'
  | 'f' => some '\x0c'
  | 'r' => some '\r'
  | '"' => some '"'
  | '\\' => some '\\'
  | _ => none

/-- The text of a string in double quotes, from behind the first quote. -/
def basicBody? : List Char → List Char → Option (List Char × List Char)
  | text, '"' :: rest => some (text.reverse, rest)
  | text, '\\' :: 'x' :: a :: b :: rest => do
    basicBody? ((← scalarValue? [a, b]) :: text) rest
  | text, '\\' :: 'u' :: a :: b :: c :: d :: rest => do
    basicBody? ((← scalarValue? [a, b, c, d]) :: text) rest
  | text, '\\' :: 'U' :: a :: b :: c :: d :: e :: f :: g :: h :: rest => do
    basicBody? ((← scalarValue? [a, b, c, d, e, f, g, h]) :: text) rest
  | text, '\\' :: c :: rest => do basicBody? ((← simpleEscape? c) :: text) rest
  | text, c :: rest => if isPlain c then basicBody? (c :: text) rest else none
  | _, [] => none

/-- The text of a string in single quotes, from behind the first quote. -/
def literalBody? : List Char → List Char → Option (List Char × List Char)
  | text, '\'' :: rest => some (text.reverse, rest)
  | text, c :: rest => if isPlain c then literalBody? (c :: text) rest else none
  | _, [] => none

/-- A backslash at the end of a line. -/
def isLineContinuation (cs : List Char) : Bool := (newline? (cs.dropWhile isSpace)).isSome

/-- The text of a string in triple double quotes. Up to two quotes may stand before the closing
three. After a backslash at the end of a line, blanks and line ends are skipped. -/
def multilineBasicBody? : (skipping : Bool) → List Char → List Char →
    Option (List Char × List Char)
  | _, text, '"' :: '"' :: '"' :: '"' :: '"' :: rest => some (('"' :: '"' :: text).reverse, rest)
  | _, text, '"' :: '"' :: '"' :: '"' :: rest => some (('"' :: text).reverse, rest)
  | _, text, '"' :: '"' :: '"' :: rest => some (text.reverse, rest)
  | true, text, '\r' :: '\n' :: rest => multilineBasicBody? true text rest
  | false, text, '\r' :: '\n' :: rest => multilineBasicBody? false ('\n' :: '\r' :: text) rest
  | _, text, '\\' :: 'x' :: a :: b :: rest => do
    multilineBasicBody? false ((← scalarValue? [a, b]) :: text) rest
  | _, text, '\\' :: 'u' :: a :: b :: c :: d :: rest => do
    multilineBasicBody? false ((← scalarValue? [a, b, c, d]) :: text) rest
  | _, text, '\\' :: 'U' :: a :: b :: c :: d :: e :: f :: g :: h :: rest => do
    multilineBasicBody? false ((← scalarValue? [a, b, c, d, e, f, g, h]) :: text) rest
  | _, text, '\\' :: c :: rest =>
    if isLineContinuation (c :: rest) then
      if c = '\r' then
        match rest with
        | _ :: rest => multilineBasicBody? true text rest
        | [] => none
      else multilineBasicBody? true text rest
    else do multilineBasicBody? false ((← simpleEscape? c) :: text) rest
  | skipping, text, c :: rest =>
    if skipping ∧ (isSpace c ∨ c = '\n') then multilineBasicBody? true text rest
    else if isPlain c ∨ c = '\n' then multilineBasicBody? false (c :: text) rest
    else none
  | _, _, [] => none

/-- The text of a string in triple single quotes. -/
def multilineLiteralBody? : List Char → List Char → Option (List Char × List Char)
  | text, '\'' :: '\'' :: '\'' :: '\'' :: '\'' :: rest =>
    some (('\'' :: '\'' :: text).reverse, rest)
  | text, '\'' :: '\'' :: '\'' :: '\'' :: rest => some (('\'' :: text).reverse, rest)
  | text, '\'' :: '\'' :: '\'' :: rest => some (text.reverse, rest)
  | text, '\r' :: '\n' :: rest => multilineLiteralBody? ('\n' :: '\r' :: text) rest
  | text, c :: rest =>
    if isPlain c ∨ c = '\n' then multilineLiteralBody? (c :: text) rest else none
  | _, [] => none

/-- A line end right behind the opening quotes does not count. -/
def dropFirstNewline (cs : List Char) : List Char := (newline? cs).getD cs

/-- Take a body off the text. -/
def takeBody (body : List Char → Option (List Char × List Char)) (cs : List Char) :
    Reader String := do
  let (text, rest) ← body cs
  set rest
  return String.ofList text

/-- A string on one line. -/
def lineString : Reader String := do
  match ← get with
  | '"' :: rest => takeBody (basicBody? []) rest
  | '\'' :: rest => takeBody (literalBody? []) rest
  | _ => failure

/-- A string of any form. -/
def anyString : Reader String := do
  match ← get with
  | '"' :: '"' :: '"' :: rest => takeBody (multilineBasicBody? false []) (dropFirstNewline rest)
  | '\'' :: '\'' :: '\'' :: rest => takeBody (multilineLiteralBody? []) (dropFirstNewline rest)
  | _ => lineString

def isBareKeyChar (c : Char) : Bool := c.isAlphanum || c == '_' || c == '-'

def simpleKey : Reader String := do
  match ← get with
  | '"' :: _ | '\'' :: _ => lineString
  | text =>
    let bare := text.takeWhile isBareKeyChar
    if bare.isEmpty then failure
    set (text.dropWhile isBareKeyChar)
    return String.ofList bare

/-- How many parts a dotted key may have. -/
def keyLimit : Nat := 80

/-- Further parts of a dotted key, fewer than `bound`, with blanks around the dots. -/
def keyParts : (bound : Nat) → Reader (List String)
  | 0 => failure
  | bound + 1 => do
    skipSpaces
    match ← get with
    | '.' :: rest =>
      set rest
      skipSpaces
      let part ← simpleKey
      return part :: (← keyParts bound)
    | _ => return []

/-- A key as the path to its table and the last part. -/
def dottedKey : Reader (List String × String) := do
  let first ← simpleKey
  let rest ← keyParts keyLimit
  match (first :: rest).reverse with
  | key :: path => return (path.reverse, key)
  | [] => failure

/-- Signs and line ends that end a value without quotes. -/
def endsScalar (c : Char) : Bool :=
  c == '\r' || c == '\n' || c == '#' || c == '=' || c == ',' || c == '[' || c == ']' ||
    c == '\x7b' || c == '\x7d'

/-- The text of a value without quotes, and what follows it. Blanks belong to it where it goes on
behind them, other than with a quote. `blanks` are those since its last character. -/
def splitScalar : (blanks : List Char) → List Char → List Char × List Char
  | blanks, [] => ([], blanks)
  | blanks, c :: cs =>
    if isSpace c then splitScalar (blanks ++ [c]) cs
    else if endsScalar c || (!blanks.isEmpty && (c == '"' || c == '\'')) then ([], blanks ++ c :: cs)
    else
      let (text, rest) := splitScalar [] cs
      (blanks ++ c :: text, rest)

/-- A value without quotes. -/
def scalar : Reader Value := do
  let (text, rest) := splitScalar [] (← get)
  set rest
  scalar? text

end NextBoot.Toml
