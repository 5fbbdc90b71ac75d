import Sluice.Record
import Sluice.Text.Utf8

/-!
# MessagePack values

A value as it travels: text is kept as bytes, since nothing keeps a sender from putting other bytes
there. Floating point numbers and extensions carry nothing that a message of ours uses, so they are
kept as kinds only.

The functions at the end read a value as something: `MessagePack.natural?`, `MessagePack.text?`,
`MessagePack.record?` and so on.
-/

namespace Sluice

/-- A MessagePack value. -/
inductive MessagePack where
  /-- No value. -/
  | nil
  /-- A truth value. -/
  | bool (b : Bool)
  /-- An integer in an unsigned format. -/
  | uint (n : Nat)
  /-- An integer in a signed format. -/
  | int (n : Int)
  /-- A floating point number. -/
  | float
  /-- Text, if the bytes are such. -/
  | str (s : Bytes)
  /-- Bytes. -/
  | bin (s : Bytes)
  /-- A row of values. -/
  | array (items : List MessagePack)
  /-- Pairs of values. -/
  | map (members : List (MessagePack × MessagePack))
  /-- An extension. -/
  | ext
  deriving Repr

namespace MessagePack

/-- A natural number. -/
def ofNat (n : Nat) : MessagePack := .uint n

/-- A text. -/
def ofString (s : String) : MessagePack := .str (Utf8.ofString s)

/-- A row of numbers of 8 bits. -/
def ofOctets (s : Bytes) : MessagePack := .array (s.map fun b => ofNat b.toNat)

/-- A value or nil. -/
def ofOption {α : Type} (f : α → MessagePack) : Option α → MessagePack
  | none => .nil
  | some a => f a

/-- Named values. -/
def ofMembers (ms : List (String × MessagePack)) : MessagePack :=
  .map (ms.map fun m => (ofString m.1, m.2))

/-! ### Reading a value as something -/

/-- A natural number of at most `bound`. -/
def natural? (bound : Nat) : MessagePack → Option Nat
  | .uint n => if n ≤ bound then some n else none
  | .int n => if 0 ≤ n ∧ n ≤ bound then some n.toNat else none
  | _ => none

/-- An unsigned number of 8 bits. -/
def uint8? (v : MessagePack) : Option UInt8 := (v.natural? 255).map Nat.toUInt8

/-- An unsigned number of 16 bits. -/
def uint16? (v : MessagePack) : Option UInt16 := (v.natural? 65535).map Nat.toUInt16

/-- An unsigned number of 32 bits. -/
def uint32? (v : MessagePack) : Option UInt32 := (v.natural? 4294967295).map Nat.toUInt32

/-- An unsigned number of 64 bits. -/
def uint64? (v : MessagePack) : Option UInt64 :=
  (v.natural? 18446744073709551615).map Nat.toUInt64

/-- A text. -/
def text? : MessagePack → Option String
  | .str s => Utf8.toString? s
  | _ => none

/-- A text that may also be given as bytes. -/
def textOrBytes? : MessagePack → Option String
  | .str s | .bin s => Utf8.toString? s
  | _ => none

/-- Bytes, given as such or as text that is none. -/
def rawBytes? : MessagePack → Option Bytes
  | .bin s => some s
  | .str s => if (Utf8.toString? s).isNone then some s else none
  | _ => none

/-- Bytes, given as such or as a row of numbers. -/
def octets? : MessagePack → Option Bytes
  | .bin s => some s
  | .array items => items.mapM uint8?
  | _ => none

/-- A value or nil. -/
def nullable? {α : Type} (read : MessagePack → Option α) : MessagePack → Option (Option α)
  | .nil => some none
  | v => (read v).map some

/-- The name that a key gives: a text, bytes, or the place of the name. A key that is no known name
gives the empty one. -/
def name? (names : List String) : MessagePack → Option String
  | .str s | .bin s => some ((Utf8.toString? s).getD "")
  | .uint n => some (names.getD n "")
  | _ => none

/-- The fields of a record, by name or by position. -/
def record? (names : List String) : MessagePack → Option (Record MessagePack)
  | .array items => Record.ofItems? names items
  | .map ms => do
    Record.ofMembers? names (← ms.mapM fun m => (name? names m.1).map (·, m.2))
  | _ => none

/-- The place of a choice among names: its name, its place, or a single pair of it and nil. -/
def choice? (names : List String) (v : MessagePack) : Option Nat :=
  let key := match v with
    | .map [(k, .nil)] => some k
    | .map _ => none
    | v => some v
  match key with
  | some (.uint n) => if n < names.length then some n else none
  | some k => do
    let name ← textOrBytes? k
    names.findIdx? (· == name)
  | none => none

end MessagePack

end Sluice
