/-! Numbers as they are written in digits, hexadecimal ones among them. -/
namespace NextBoot.Text

inductive LetterCase where
  | lower
  | upper
  deriving DecidableEq, Repr

def hexDigit (letters : LetterCase) (n : Nat) : Char :=
  if n < 10 then Char.ofNat (48 + n)
  else match letters with
    | .lower => Char.ofNat (87 + n)
    | .upper => Char.ofNat (55 + n)

/-- The last `width` digits of `n`, leading zeros included. -/
def hexPadded (letters : LetterCase) : Nat → Nat → List Char
  | 0, _ => []
  | width + 1, n => hexPadded letters width (n / 16) ++ [hexDigit letters (n % 16)]

@[simp] theorem length_hexPadded (letters : LetterCase) (width n : Nat) :
    (hexPadded letters width n).length = width := by
  induction width generalizing n with
  | zero => rfl
  | succ width ih => simp [hexPadded, ih]

/-- The value of an ASCII hexadecimal digit of either case. -/
def hexValue? (c : Char) : Option Nat :=
  let n := c.toNat
  if 48 ≤ n ∧ n ≤ 57 then some (n - 48)
  else if 65 ≤ n ∧ n ≤ 70 then some (n - 55)
  else if 97 ≤ n ∧ n ≤ 102 then some (n - 87)
  else none

theorem hexValue?_hexDigit (letters : LetterCase) {n : Nat} (h : n < 16) :
    hexValue? (hexDigit letters n) = some n := by
  have digits : ∀ d : Fin 16, hexValue? (hexDigit letters d) = some d.val := by
    cases letters <;> decide
  exact digits ⟨n, h⟩

/-- Lower case digits without leading zeros. -/
def hexText (n : Nat) : String := String.ofList (Nat.toDigits 16 n)

def digitBelow? (base : Nat) (c : Char) : Option Nat := (hexValue? c).filter (· < base)

/-- The number that these digits write; there must be one at least. -/
def natural? (base : Nat) (cs : List Char) : Option Nat :=
  if cs.isEmpty then none
  else (cs.mapM (digitBelow? base)).map (·.foldl (fun n d => n * base + d) 0)

/-- As `natural?`, behind a sign that need not be there. -/
def signed? (cs : List Char) : Option Int :=
  match cs with
  | '-' :: ds => (natural? 10 ds).map fun n => -(n : Int)
  | '+' :: ds => (natural? 10 ds).map Int.ofNat
  | ds => (natural? 10 ds).map Int.ofNat

/-- What follows a sign that need not be there. -/
def afterSign : List Char → List Char
  | '-' :: cs | '+' :: cs => cs
  | cs => cs

/-- The power of ten at the end of a decimal number, if there is one. -/
def isPower : List Char → Bool
  | [] => true
  | e :: cs => (e == 'e' || e == 'E') && (natural? 10 (afterSign cs)).isSome

/-- Whether this is a decimal number, infinity or no number by name, behind a sign that need not be
there. There are digits before the point or after it. -/
def isDecimal (cs : List Char) : Bool :=
  let cs := afterSign cs
  let whole := cs.takeWhile Char.isDigit
  (String.ofList cs).toLower ∈ ["inf", "infinity", "nan"] ||
    match cs.dropWhile Char.isDigit with
    | '.' :: rest =>
      !(whole ++ rest.takeWhile Char.isDigit).isEmpty && isPower (rest.dropWhile Char.isDigit)
    | rest => !whole.isEmpty && isPower rest

end NextBoot.Text
