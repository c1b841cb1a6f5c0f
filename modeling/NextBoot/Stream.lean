import NextBoot.Bytes
import NextBoot.Failure

/-! Sources of bytes that are read once and may fail on the way. -/
namespace NextBoot

inductive Chunk where
  | data (bytes : Bytes)
  /-- The read was interrupted and is tried again. -/
  | interrupted
  | failure (cause : IoError)
  deriving DecidableEq, Repr

/-- What successive reads meet, in order; nothing more is the end. -/
abbrev Stream := List Chunk

namespace Stream

/-- The bytes delivered up to the end or to the first failure. -/
def delivered : Stream → Bytes
  | [] => []
  | .data bytes :: rest => bytes ++ delivered rest
  | .interrupted :: rest => delivered rest
  | .failure _ :: _ => []

def failure? : Stream → Option IoError
  | [] => none
  | .failure cause :: _ => some cause
  | _ :: rest => failure? rest

def readToEnd (s : Stream) : Except IoError Bytes :=
  match s.failure? with
  | none => .ok s.delivered
  | some cause => .error cause

/-! ### Reading piece by piece -/

/-- One read into a buffer with room for `room` bytes, and what is left to read. To read nothing is
the end, so pieces without bytes are passed over. -/
def read (room : Nat) : Stream → Chunk × Stream
  | [] => (.data [], [])
  | .data bytes :: rest =>
    if bytes.isEmpty then read room rest
    else if bytes.length ≤ room then (.data bytes, rest)
    else (.data (bytes.take room), .data (bytes.drop room) :: rest)
  | chunk :: rest => (chunk, rest)

/-- How much is left to read, counting the pieces with the bytes. -/
def weight : Stream → Nat
  | [] => 0
  | .data bytes :: rest => bytes.length + 1 + weight rest
  | _ :: rest => 1 + weight rest

/-- A read that is not the end leaves less to read. -/
theorem weight_read {room : { n : Nat // 0 < n }} {s rest : Stream} {chunk : Chunk}
    (h : s.read room = (chunk, rest)) : chunk = .data [] ∨ rest.weight < s.weight := by
  have hroom := room.property
  induction s with
  | nil => exact .inl (congrArg Prod.fst h).symm
  | cons first later ih =>
    cases first with
    | data bytes =>
      unfold read at h
      split at h
      next =>
        rcases ih h with ended | less
        · exact .inl ended
        · right
          simp only [weight]
          omega
      next =>
        right
        split at h
        next =>
          obtain rfl := congrArg Prod.snd h
          simp only [weight]
          omega
        next =>
          obtain rfl := congrArg Prod.snd h
          simp only [weight, List.length_drop]
          omega
    | interrupted | failure cause =>
      obtain rfl := congrArg Prod.snd h
      right
      simp only [read, weight]
      omega

/-- Take in what is read until the end, each time with the room that there is by then. Reads that were
interrupted are tried again. -/
def drain {σ : Type} (room : σ → { n : Nat // 0 < n }) (take : σ → Bytes → σ) (held : σ)
    (s : Stream) : Except IoError σ :=
  match h : s.read (room held) with
  | (.failure cause, _) => .error cause
  | (.interrupted, rest) =>
    have less : rest.weight < s.weight := (weight_read h).resolve_left (by simp)
    drain room take held rest
  | (.data [], _) => .ok held
  | (.data (b :: bytes), rest) =>
    have less : rest.weight < s.weight := (weight_read h).resolve_left (by simp)
    drain room take (take held (b :: bytes)) rest
termination_by s.weight

/-- The room in a buffer that doubles whenever it is full. -/
def growingRoom (held : Bytes) : { n : Nat // 0 < n } := ⟨max 32 held.length, by omega⟩

/-- Read to the end into one buffer. -/
def collect (s : Stream) : Except IoError Bytes := s.drain growingRoom (· ++ ·) []

end Stream

end NextBoot
