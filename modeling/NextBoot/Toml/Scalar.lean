import NextBoot.Text.Number
import NextBoot.Toml.Value

/-! Values that are written without quotes: booleans, numbers, dates and times. The first characters
decide which of these a text can be, and only then are the digits asked for, so that a text may have
the shape of an integer and still write none. -/
namespace NextBoot.Toml

/-! ### Numbers -/

def isNumberChar (c : Char) : Bool := c.isDigit || c == '_'

def isHexDigit (c : Char) : Bool := (Text.hexValue? c).isSome

/-- Whether each underscore stands between digits, where `afterDigit` tells that a digit came
last. -/
def separatorsFit (isDigit : Char → Bool) : (afterDigit : Bool) → List Char → Bool
  | _, [] => true
  | afterDigit, '_' :: rest =>
    afterDigit && rest.head?.any isDigit && separatorsFit isDigit false rest
  | _, c :: rest => separatorsFit isDigit (isDigit c) rest

/-- Whether each underscore in a number stands between digits. -/
def wellSeparated (isDigit : Char → Bool) (cs : List Char) : Bool := separatorsFit isDigit false cs

def withoutSeparators (cs : List Char) : List Char := cs.filter (· ≠ '_')

/-- Whether a number of more than one digit begins with zero. -/
def hasLeadingZero (digits : List Char) : Bool :=
  digits.head? == some '0' && 1 < digits.countP Char.isDigit

def hasDigit (cs : List Char) : Bool := cs.any Char.isDigit

/-- Digits after `e`, and nothing more. Without `e` there is nothing at all. -/
def isExponent : List Char → Bool
  | [] => true
  | e :: cs =>
    (e == 'e' || e == 'E') && hasDigit (Text.afterSign cs) && (Text.afterSign cs).all isNumberChar

/-- Whether this is the text of a float behind its sign: a whole part, then perhaps a fraction, then
perhaps an exponent. -/
def isUnsignedFloat (cs : List Char) : Bool :=
  let whole := cs.takeWhile isNumberChar
  hasDigit whole && !hasLeadingZero whole &&
    match cs.dropWhile isNumberChar with
    | '.' :: rest =>
      hasDigit (rest.takeWhile isNumberChar) && isExponent (rest.dropWhile isNumberChar)
    | rest => isExponent rest

/-! ### Dates and times

Only their shape matters: no setting has a use for the value. -/

/-- The number that exactly these decimal digits write. -/
def plainDigits? (cs : List Char) : Option Nat :=
  if cs.all Char.isDigit then some (cs.foldl (fun n c => n * 10 + (c.toNat - 48)) 0) else none

def daysIn (year month : Nat) : Nat :=
  if month = 2 then
    if year % 4 = 0 ∧ (year % 100 ≠ 0 ∨ year % 400 = 0) then 29 else 28
  else if month = 4 ∨ month = 6 ∨ month = 9 ∨ month = 11 then 30
  else 31

/-- What follows a date. -/
def afterDate? : List Char → Option (List Char)
  | y₀ :: y₁ :: y₂ :: y₃ :: '-' :: m₀ :: m₁ :: '-' :: d₀ :: d₁ :: rest => do
    let year ← plainDigits? [y₀, y₁, y₂, y₃]
    let month ← plainDigits? [m₀, m₁]
    let day ← plainDigits? [d₀, d₁]
    if 1 ≤ month ∧ month ≤ 12 ∧ 1 ≤ day ∧ day ≤ daysIn year month then some rest else none
  | _ => none

/-- What follows an hour and a minute. -/
def afterMinute? : List Char → Option (List Char)
  | h₀ :: h₁ :: ':' :: m₀ :: m₁ :: rest => do
    let hour ← plainDigits? [h₀, h₁]
    let minute ← plainDigits? [m₀, m₁]
    if hour ≤ 23 ∧ minute ≤ 59 then some rest else none
  | _ => none

/-- What follows a fraction of a second, which need not be there. -/
def afterFraction? : List Char → Option (List Char)
  | '.' :: fraction =>
    if (fraction.takeWhile Char.isDigit).isEmpty then none
    else some (fraction.dropWhile Char.isDigit)
  | rest => some rest

/-- What follows a time of day. Seconds may be left out; a minute may have a leap second. -/
def afterTime? (cs : List Char) : Option (List Char) := do
  match ← afterMinute? cs with
  | ':' :: s₀ :: s₁ :: rest =>
    let second ← plainDigits? [s₀, s₁]
    if second ≤ 60 then afterFraction? rest else none
  | ':' :: _ => none
  | rest => some rest

def isOffset : List Char → Bool
  | ['Z'] | ['z'] => true
  | '+' :: time | '-' :: time => afterMinute? time == some []
  | _ => false

/-- A date, a time, or a date and a time; only the last may have an offset. -/
def isDateTime (cs : List Char) : Bool :=
  match afterDate? cs with
  | some [] => true
  | some (separator :: rest) =>
    (separator == 'T' || separator == 't' || separator == ' ') &&
      (afterTime? rest).any fun offset => offset.isEmpty || isOffset offset
  | none => afterTime? cs == some []

/-! ### Values -/

/-- A decimal integer. -/
def integer? (text : List Char) : Option Value :=
  if wellSeparated isHexDigit text then some (.integer (Text.signed? (withoutSeparators text)))
  else none

/-- The base that stands behind the zero at the start of a number. -/
def baseNamed? : Char → Option Nat
  | 'x' => some 16
  | 'o' => some 8
  | 'b' => some 2
  | _ => none

/-- A number in another base; its digits may be missing. -/
def basedInteger? (base : Nat) (digits : List Char) : Option Value :=
  if digits.all (fun c => c == '_' || (Text.digitBelow? base c).isSome) ∧
      wellSeparated isHexDigit digits then
    some (.integer ((Text.natural? base (withoutSeparators digits)).map Int.ofNat))
  else none

def float? (text : List Char) : Option Value :=
  if isUnsignedFloat (Text.afterSign text) ∧ wellSeparated Char.isDigit text then
    some (.float (String.ofList text))
  else none

def dateTime? (text : List Char) : Option Value :=
  if isDateTime text then some (.dateTime (String.ofList text)) else none

/-- The number in `text`, whose part behind the sign is `unsigned`. What follows the first digits
tells its kind. -/
def number? (text unsigned : List Char) : Option Value :=
  match unsigned.dropWhile Char.isDigit with
  | [] => if hasLeadingZero unsigned then none else integer? text
  | '-' :: _ | ':' :: _ => dateTime? text
  | rest =>
    if ' ' ∈ rest then none
    else if '.' ∈ rest ∨ 'e' ∈ rest ∨ 'E' ∈ rest then float? text
    else if rest.head? = some '_' ∧ unsigned.head? ≠ some '0' then integer? text
    else none

/-- Infinity, or what is not a number. -/
def isSpecialFloat (cs : List Char) : Bool := cs == ['i', 'n', 'f'] || cs == ['n', 'a', 'n']

def startsNumber (cs : List Char) : Bool := cs.head?.any isNumberChar

def scalar? (text : List Char) : Option Value :=
  if text = ['t', 'r', 'u', 'e'] then some (.boolean true)
  else if text = ['f', 'a', 'l', 's', 'e'] then some (.boolean false)
  else if isSpecialFloat (Text.afterSign text) then some (.float (String.ofList text))
  else
    match text with
    | '0' :: c :: digits =>
      match baseNamed? c with
      | some base => basedInteger? base digits
      | none => number? text text
    | _ => if startsNumber (Text.afterSign text) then number? text (Text.afterSign text) else none

end NextBoot.Toml
