import Sluice.Record
import Sluice.Text.Digits
import Sluice.Number.Binary64

/-!
# JSON values

A document as it is written: numbers keep their digits, objects keep the order and the repetition
of their members. Text that is no sequence of characters (bytes that are not UTF-8, half of a
surrogate pair) is a `none`, which matters only to a reader that wants to know the text.

The functions at the end read a value as something: `Json.natural?`, `Json.float?`, `Json.text?`,
`Json.record?` and so on.
-/

namespace Sluice

/-- A number as it is written. -/
structure Numeral where
  /-- A minus sign stands before it. -/
  negative : Bool
  /-- The digits before the point. -/
  whole : Nat
  /-- The digits after the point, if there is one. -/
  places : Option (List Char)
  /-- The exponent, if there is one. -/
  exponent : Option Int
  deriving DecidableEq, Repr

/-- A JSON value. -/
inductive Json where
  /-- The value `null`. -/
  | null
  /-- A truth value. -/
  | bool (b : Bool)
  /-- A number. -/
  | number (n : Numeral)
  /-- A text. -/
  | string (s : Option String)
  /-- A row of values. -/
  | array (items : List Json)
  /-- Named values. -/
  | object (members : List (Option String × Json))
  deriving Repr

namespace Numeral

/-- A natural number. -/
def ofNat (n : Nat) : Numeral := ⟨false, n, none, none⟩

/-- An integer. -/
def ofInt (n : Int) : Numeral := ⟨n < 0, n.natAbs, none, none⟩

/-- Written without point and exponent. -/
def isWhole (n : Numeral) : Bool := n.places.isNone && n.exponent.isNone

/-- The natural number, if it is one and not negated. -/
def natural? (n : Numeral) : Option Nat :=
  if n.isWhole && !n.negative then some n.whole else none

/-- The integer, if it is one. -/
def integer? (n : Numeral) : Option Int :=
  if n.isWhole then some (if n.negative then -(n.whole : Int) else n.whole) else none

/-! ### As a floating point number

Digits are gathered in 64 bits. Once the next digit does not fit, the rest of the digits before the
point only count, and the rest of those after it are dropped. The gathered number is then scaled in
floating point, by at most 308 places at a time. -/

/-- Takes the digits before the point: the number so far and the digits that did not fit. -/
def gatherWhole (acc : Nat) : List Char → Nat × Nat
  | [] => (acc, 0)
  | c :: r =>
    let next := acc * 10 + (c.toNat - 48)
    if next < 18446744073709551616 then gatherWhole next r else (acc, r.length + 1)

/-- Takes the digits after the point: the number and how many digits went into it. -/
def gatherPlaces (acc taken : Nat) : List Char → Nat × Nat
  | [] => (acc, taken)
  | c :: r =>
    let next := acc * 10 + (c.toNat - 48)
    if next < 18446744073709551616 then gatherPlaces next (taken + 1) r else (acc, taken)

/-- `x` times ten to the `exp`, none if that is too large; `fuel` bounds the steps. -/
def scale? (fuel : Nat) (x : Float) (exp : Int) : Option Float :=
  if exp.natAbs ≤ 308 then
    let power := Binary64.ofDecimal 1 exp.natAbs
    let y := if 0 ≤ exp then x * power else x / power
    if 0 ≤ exp ∧ y.isInf then none else some y
  else if x == 0.0 then some x
  else if 0 ≤ exp then none
  else match fuel with
    | 0 => some 0.0
    | fuel + 1 => scale? fuel (x / Binary64.ofDecimal 1 308) (exp + 308)

/-- The floating point number, none if it is too large. -/
def float? (n : Numeral) : Option Float :=
  let (whole, dropped) := gatherWhole 0 (Nat.toDigits 10 n.whole)
  let (digits, taken) := gatherPlaces whole 0 (n.places.getD [])
  let exp : Int := (dropped : Int) - taken + n.exponent.getD 0
  let magnitude :=
    if digits = 0 ∨ exp < -100000 then some 0.0
    else if 100000 < exp then none
    else scale? 400 (Float.ofNat digits) exp
  magnitude.map fun x => if n.negative then -x else x

end Numeral

namespace Json

/-- A natural number. -/
def ofNat (n : Nat) : Json := .number (.ofNat n)

/-- An integer. -/
def ofInt (n : Int) : Json := .number (.ofInt n)

/-- A text. -/
def ofString (s : String) : Json := .string (some s)

/-- Members in the order given. -/
def ofMembers (ms : List (String × Json)) : Json := .object (ms.map fun m => (some m.1, m.2))

/-- A floating point number by its shortest digits; null if it is no finite number. -/
def ofFloat (x : Float) : Json :=
  match Binary64.parts x with
  | .nan | .infinite _ => .null
  | .finite negative mant exp =>
    let d := Binary64.shortest mant exp
    .number ⟨negative, d.digits, some ['0'], some d.exp⟩

/-- Bytes as numbers. -/
def ofBytes (s : List UInt8) : Json := .array (s.map fun b => ofNat b.toNat)

/-! ### Reading a value as something -/

/-- A natural number of at most `bound`. -/
def natural? (bound : Nat) : Json → Option Nat
  | .number n => n.natural?.filter (· ≤ bound)
  | _ => none

/-- An unsigned number of 8 bits. -/
def uint8? (j : Json) : Option UInt8 := (j.natural? 255).map Nat.toUInt8

/-- An unsigned number of 16 bits. -/
def uint16? (j : Json) : Option UInt16 := (j.natural? 65535).map Nat.toUInt16

/-- An unsigned number of 32 bits. -/
def uint32? (j : Json) : Option UInt32 := (j.natural? 4294967295).map Nat.toUInt32

/-- An unsigned number of 64 bits. -/
def uint64? (j : Json) : Option UInt64 := (j.natural? 18446744073709551615).map Nat.toUInt64

/-- An integer. -/
def integer? : Json → Option Int
  | .number n => n.integer?
  | _ => none

/-- A floating point number. -/
def float? : Json → Option Float
  | .number n => n.float?
  | _ => none

/-- A truth value. -/
def bool? : Json → Option Bool
  | .bool b => some b
  | _ => none

/-- A text. -/
def text? : Json → Option String
  | .string s => s
  | _ => none

/-- A row of values. -/
def items? : Json → Option (List Json)
  | .array items => some items
  | _ => none

/-- Named values, all of them with readable names. -/
def members? : Json → Option (List (String × Json))
  | .object ms => ms.mapM fun m => m.1.map (·, m.2)
  | _ => none

/-- A value that may be `null`. -/
def nullable? {α : Type} (read : Json → Option α) : Json → Option (Option α)
  | .null => some none
  | j => (read j).map some

/-- Bytes as a row of numbers. -/
def bytes? (j : Json) : Option (List UInt8) := do (← j.items?).mapM uint8?

/-- The fields of a record, by name or by position. -/
def record? (names : List String) (j : Json) : Option (Record Json) :=
  match j with
  | .array items => Record.ofItems? names items
  | j => do Record.ofMembers? names (← j.members?)

/-- A member of an object. -/
def member? (name : String) (j : Json) : Option Json := do (← j.members?).lookup name

end Json

end Sluice
