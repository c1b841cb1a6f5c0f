import NextBoot.Firmware.BootEntries

/-! Putting the boot entry with a given description first in the boot order. -/
namespace NextBoot.Firmware

/-- The indices of the entries described so, ascending. -/
def matching (entries : List (UInt16 × LoadOption)) (description : String) : List UInt16 :=
  (entries.filter fun e => e.2.description = description).map Prod.fst

/-- Put the lowest entry described as `description` first, and take all others so described out of
the order. The answer is the new order. -/
def promote (s : VariableStore) (description : String) :
    Logged (Except BootError BootOrder × VariableStore) := do
  match BootOrder.read s with
  | .error e => return (.error e, s)
  | .ok current =>
    Logged.tell (.info .bootOrder ("Current BootOrder: " ++ current.text))
    match ← bootEntries s with
    | .error e => return (.error e, s)
    | .ok entries =>
      match matching entries description with
      | [] => return (.error (.entryNotFound description), s)
      | index :: others =>
        let shown := String.ofList (Text.hexPadded .upper 4 index.toNat)
        Logged.tell
          (.info .bootOrder
            ("Found boot entry " ++ shown ++ " described as " ++ Text.quoted description))
        let order := current.promoted index (index :: others)
        match ← order.write s with
        | (.error e, after) => return (.error (.store e), after)
        | (.ok (), after) =>
          Logged.tell (.info .bootOrder ("New BootOrder: " ++ order.text))
          return (.ok order, after)

/-- Why work on a store that was named by a path failed. -/
inductive AccessError where
  | notOpened (cause : IoError)
  | refused (cause : BootError)
  deriving DecidableEq, Repr

def AccessError.chain : AccessError → String
  | notOpened cause => cause.message
  | refused cause => cause.chain

/-- Open the store at `path` and promote an entry of it. The answer is the new order, and the directory
as it is afterwards if it was opened. -/
def promoteAt (path : String) (place : Place) (mount : UInt64) (flags : InodeFlags)
    (writes : WriteCalls) (description : String) :
    Logged (Except (Failure AccessError) BootOrder × Option Directory) := do
  let context := "Promoting boot entry " ++ Text.quoted description
  match openStoreWritable path place mount flags writes with
  | .error e => return (.error ((e.map .notOpened).within context), none)
  | .ok s =>
    let (result, after) ← promote s description
    return (result.mapError fun e => (Failure.of (.refused e)).within context, after.directory)

end NextBoot.Firmware
