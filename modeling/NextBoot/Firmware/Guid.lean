import NextBoot.Text.Number

/-! Globally unique identifiers, which name the owners of firmware variables. -/
namespace NextBoot.Firmware

structure Guid where
  value : BitVec 128
  deriving DecidableEq, Repr

namespace Guid

/-- The owner of all variables that the firmware standard defines. -/
def globalVariable : Guid := ⟨0x8be4df61_93ca_11d2_aa0d_00e098032b8c⟩

/-- Groups of 8, 4, 4, 4 and 12 lower case digits. -/
def chars (g : Guid) : List Char :=
  let digits (width shift : Nat) := Text.hexPadded .lower width (g.value.toNat >>> shift)
  digits 8 96 ++ '-' :: digits 4 80 ++ '-' :: digits 4 64 ++ '-' :: digits 4 48 ++
    '-' :: digits 12 0

@[simp] theorem length_chars (g : Guid) : g.chars.length = 36 := by simp [chars]

def text (g : Guid) : String := String.ofList g.chars

/-- The identifier with these 32 digits, of either case. -/
def ofDigits? (cs : List Char) : Option Guid := do
  if cs.length ≠ 32 then none
  let digits ← cs.mapM Text.hexValue?
  return ⟨BitVec.ofNat 128 (digits.foldl (fun n d => n * 16 + d) 0)⟩

/-- The identifier written in hyphenated groups. -/
def ofGroups? (s : String) : Option Guid :=
  let groups := s.splitOn "-"
  if groups.map String.length = [8, 4, 4, 4, 12] then ofDigits? (groups.flatMap String.toList)
  else none

/-- The scheme that may stand before an identifier, in letters of either case. -/
def scheme : String := "urn:uuid:"

/-- The identifier with this text: bare digits, or groups, which may stand in braces or behind the
name of the scheme. -/
def ofText? (s : String) : Option Guid :=
  let cs := s.toList
  let (start, rest) := cs.splitAt scheme.length
  if (String.ofList start).toLower = scheme then ofGroups? (String.ofList rest)
  else if cs.head? = some '\x7b' then
    if cs.getLast? = some '\x7d' then ofGroups? (String.ofList (cs.drop 1).dropLast) else none
  else (ofDigits? cs).or (ofGroups? s)

end Guid

end NextBoot.Firmware
