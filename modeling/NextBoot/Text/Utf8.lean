import NextBoot.Bytes

/-! UTF-8. Decoding reads bytes into characters and maximal ill-formed parts, and gives back every
text that was encoded. -/
namespace NextBoot.Text.Utf8

def encode (s : String) : Bytes := s.toList.flatMap String.utf8EncodeChar

theorem length_encode_le (s : String) : (encode s).length ≤ 4 * s.toList.length := by
  rw [encode]
  induction s.toList with
  | nil => exact Nat.le_refl 0
  | cons c cs ih =>
    have hc := c.utf8Size_le_four
    rw [List.flatMap_cons, List.length_append, String.length_utf8EncodeChar, List.length_cons]
    omega

/-- A sequence that has begun: the bytes it still needs, the value so far, and the range in which
its next byte must lie. -/
structure Sequence where
  missing : Nat
  value : Nat
  low : Nat
  high : Nat
  deriving DecidableEq, Repr

/-- What has been read, newest first; `none` stands for an ill-formed part. -/
structure Scan where
  pending : Option Sequence
  parts : List (Option Char)
  deriving DecidableEq, Repr

namespace Scan

def initial : Scan := ⟨none, []⟩

def deliver (s : Scan) (part : Option Char) : Scan := ⟨none, part :: s.parts⟩

/-- Read a byte where a character begins. The narrow ranges after `E0`, `ED`, `F0` and `F4` keep out
overlong forms, surrogates and values past the last code point. -/
def lead (s : Scan) (b : Nat) : Scan :=
  if b < 0x80 then s.deliver (some (Char.ofNat b))
  else if b < 0xC2 then s.deliver none
  else if b < 0xE0 then { s with pending := some ⟨1, b - 0xC0, 0x80, 0xBF⟩ }
  else if b < 0xF0 then
    let low := if b = 0xE0 then 0xA0 else 0x80
    let high := if b = 0xED then 0x9F else 0xBF
    { s with pending := some ⟨2, b - 0xE0, low, high⟩ }
  else if b < 0xF5 then
    let low := if b = 0xF0 then 0x90 else 0x80
    let high := if b = 0xF4 then 0x8F else 0xBF
    { s with pending := some ⟨3, b - 0xF0, low, high⟩ }
  else s.deliver none

/-- A byte that cannot continue the pending sequence ends it as ill-formed and begins anew. -/
def feed (s : Scan) (byte : UInt8) : Scan :=
  let b := byte.toNat
  match s.pending with
  | none => s.lead b
  | some q =>
    if q.low ≤ b ∧ b ≤ q.high then
      let value := q.value * 64 + b % 64
      if q.missing ≤ 1 then s.deliver (some (Char.ofNat value))
      else { s with pending := some ⟨q.missing - 1, value, 0x80, 0xBF⟩ }
    else (s.deliver none).lead b

def finish (s : Scan) : List (Option Char) :=
  match s.pending with
  | none => s.parts.reverse
  | some _ => (none :: s.parts).reverse

/-- Reading what one character is written as delivers that character and leaves nothing pending. -/
theorem foldl_feed_encodeChar (parts : List (Option Char)) (c : Char) :
    (String.utf8EncodeChar c).foldl feed ⟨none, parts⟩ = ⟨none, some c :: parts⟩ := by
  have hv : c.toNat < 0xD800 ∨ 0xDFFF < c.toNat ∧ c.toNat < 0x110000 := by
    have h := c.valid
    simp only [UInt32.isValidChar, Nat.isValidChar] at h
    exact h
  have hc : Char.ofNat c.toNat = c := Char.ofNat_toNat c
  unfold String.utf8EncodeChar
  have he : c.val.toNat = c.toNat := rfl
  simp only [he]
  generalize c.toNat = v at *
  split
  · simp only [List.foldl, feed, lead, deliver, UInt8.toNat_ofNat']
    rw [if_pos (by omega), show v % 2 ^ 8 = v by omega, hc]
  split
  · simp only [List.foldl, feed, lead, UInt8.toNat_ofNat']
    rw [if_neg (by omega), if_neg (by omega), if_pos (by omega)]
    simp only [deliver]
    rw [if_pos (by omega), if_pos (by omega)]
    rw [show ((v / 64 % 32 + 192) % 2 ^ 8 - 192) * 64 + (v % 64 + 128) % 2 ^ 8 % 64 = v by omega,
      hc]
  split
  · simp only [List.foldl, feed, lead, UInt8.toNat_ofNat']
    rw [if_neg (by omega), if_neg (by omega), if_neg (by omega), if_pos (by omega)]
    simp only [deliver]
    rw [if_pos (by split <;> split <;> omega), if_neg (by omega)]
    simp only
    rw [if_pos (by omega), if_pos (by omega)]
    rw [show (((v / 4096 % 16 + 224) % 2 ^ 8 - 224) * 64 + (v / 64 % 64 + 128) % 2 ^ 8 % 64) * 64
      + (v % 64 + 128) % 2 ^ 8 % 64 = v by omega, hc]
  · simp only [List.foldl, feed, lead, UInt8.toNat_ofNat']
    rw [if_neg (by omega), if_neg (by omega), if_neg (by omega), if_neg (by omega),
      if_pos (by omega)]
    simp only [deliver]
    rw [if_pos (by split <;> split <;> omega), if_neg (by omega)]
    simp only
    rw [if_pos (by omega), if_neg (by omega)]
    simp only
    rw [if_pos (by omega), if_pos (by omega)]
    rw [show ((((v / 262144 % 8 + 240) % 2 ^ 8 - 240) * 64
      + (v / 4096 % 64 + 128) % 2 ^ 8 % 64) * 64
      + (v / 64 % 64 + 128) % 2 ^ 8 % 64) * 64 + (v % 64 + 128) % 2 ^ 8 % 64 = v by omega, hc]

theorem foldl_feed_encode (parts : List (Option Char)) (cs : List Char) :
    (cs.flatMap String.utf8EncodeChar).foldl feed ⟨none, parts⟩ =
      ⟨none, (cs.map some).reverse ++ parts⟩ := by
  induction cs generalizing parts with
  | nil => rfl
  | cons c cs ih => simp [List.flatMap_cons, List.foldl_append, foldl_feed_encodeChar, ih]

end Scan

/-- The characters of the bytes in order, each maximal ill-formed part as `none`. -/
def scan (bytes : Bytes) : List (Option Char) :=
  (bytes.foldl Scan.feed Scan.initial).finish

@[simp] theorem scan_encode (s : String) : scan (encode s) = s.toList.map some := by
  simp [scan, encode, Scan.initial, Scan.foldl_feed_encode, Scan.finish]

/-- The text of well-formed bytes. -/
def decode? (bytes : Bytes) : Option String :=
  ((scan bytes).mapM id).map String.ofList

/-- The text with U+FFFD for each maximal ill-formed part. -/
def decodeLossy (bytes : Bytes) : String :=
  String.ofList ((scan bytes).map (Option.getD · '\uFFFD'))

theorem mapM_some (cs : List Char) : cs.mapM some = some cs := by
  induction cs with
  | nil => rfl
  | cons c cs ih => simp [List.mapM_cons, ih]

@[simp] theorem decode?_encode (s : String) : decode? (encode s) = some s := by
  simp [decode?, mapM_some]

@[simp] theorem decodeLossy_encode (s : String) : decodeLossy (encode s) = s := by
  simp [decodeLossy, Function.comp_def]

theorem encode_injective : Function.Injective encode := by
  intro s t h
  have hd := congrArg decode? h
  simpa using hd

end NextBoot.Text.Utf8
