import Sluice.Record

/-!
# Documents

What a reader of settings asks of a value, whatever notation it was written in. Each question has
no answer if the value is of another kind.
-/

namespace Sluice

/-- Values of some notation. -/
class Document (α : Type) where
  /-- A text. -/
  text? : α → Option String
  /-- A natural number of at most a bound. -/
  natural? : Nat → α → Option Nat
  /-- A floating point number; whole numbers count. -/
  float? : α → Option Float
  /-- A truth value. -/
  bool? : α → Option Bool
  /-- A row of values. -/
  items? : α → Option (List α)
  /-- The value stands for a missing one. -/
  isNull : α → Bool
  /-- The fields of a record with these names. -/
  record? : List String → α → Option (Record α)

namespace Document

variable {α : Type} [Document α]

/-- An unsigned number of 16 bits. -/
def uint16? (a : α) : Option UInt16 := (natural? 65535 a).map Nat.toUInt16

/-- An unsigned number of 32 bits. -/
def uint32? (a : α) : Option UInt32 := (natural? 4294967295 a).map Nat.toUInt32

/-- An unsigned number of 64 bits. -/
def uint64? (a : α) : Option UInt64 := (natural? 18446744073709551615 a).map Nat.toUInt64

/-- A value that may be missing. -/
def nullable? {β : Type} (read : α → Option β) (a : α) : Option (Option β) :=
  if isNull a then some none else (read a).map some

/-- A row of texts. -/
def texts? (a : α) : Option (List String) := do (← items? a).mapM text?

/-- A field of a record, or a value in its place if it is not there. -/
def field {β : Type} (r : Record α) (name : String) (read : α → Option β) (d : β) : Option β :=
  match r.get? name with
  | some a => read a
  | none => some d

end Document

end Sluice
