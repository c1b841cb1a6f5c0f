import NextBoot.Text.GraphemeExtend
import NextBoot.Text.Number
import NextBoot.Text.Unprintable

/-! Text with escapes: in double quotes, as messages show it, where all that would not be visible is
escaped; and tamed for a terminal, where only the controls are with which a terminal is steered. -/
namespace NextBoot.Text

/-- The code of a character in braces, as an escape. -/
def codeEscape (c : Char) : List Char :=
  '\\' :: 'u' :: '\x7b' :: Nat.toDigits 16 c.toNat ++ ['\x7d']

/-- Whether a character would be seen as itself, and would leave the one before it alone. -/
def isVisible (c : Char) : Bool :=
  !unprintable.covers c.toNat && !graphemeExtend.covers c.toNat

def quotedChar (c : Char) : List Char :=
  match c with
  | '"' => ['\\', '"']
  | '\\' => ['\\', '\\']
  | '\n' => ['\\', 'n']
  | '\r' => ['\\', 'r']
  | '\t' => ['\\', 't']
  | '\x00' => ['\\', '0']
  | c => if isVisible c then [c] else codeEscape c

def quoted (s : String) : String :=
  String.ofList ('"' :: s.toList.flatMap quotedChar ++ ['"'])

/-- Controls of one byte that ring, erase, or begin a command. -/
def steersTerminal (c : Char) : Bool :=
  c == '\x07' || c == '\x08' || c == '\x0c' || c == '\x1b' || c == '\x7f'

/-- Controls of one byte have an escape of two digits, those from 0x80 on one in braces. -/
def tamedChar (c : Char) : List Char :=
  if steersTerminal c then '\\' :: 'x' :: hexPadded .lower 2 c.toNat
  else if 0x80 ≤ c.toNat ∧ c.toNat ≤ 0x9F then
    '\\' :: 'u' :: '\x7b' :: hexPadded .lower 2 c.toNat ++ ['\x7d']
  else [c]

def tamed (s : String) : String := String.ofList (s.toList.flatMap tamedChar)

end NextBoot.Text
