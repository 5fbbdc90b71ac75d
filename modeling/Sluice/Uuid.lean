import Sluice.Text.Digits

/-!
# Correlation ids

A `Uuid` is a row of 16 bytes.

* `Uuid.text` is its canonical form, lower-case digits in five groups;
* `Uuid.ofText?` reads the forms in use: 32 digits, five groups with hyphens, the groups in braces,
  and the groups after `urn:uuid:`; digits may have either case.
-/

namespace Sluice

/-- A universally unique identifier. -/
structure Uuid where
  /-- The bytes, most significant first. -/
  bytes : List UInt8
  /-- There are 16 of them. -/
  length_bytes : bytes.length = 16
  deriving DecidableEq, Repr

namespace Uuid

/-- The id of these bytes, if there are 16. -/
def ofBytes? (bytes : List UInt8) : Option Uuid :=
  if h : bytes.length = 16 then some ⟨bytes, h⟩ else none

/-- The id whose bytes are all zero. -/
def nil : Uuid := ⟨List.replicate 16 0, by simp⟩

instance : Inhabited Uuid := ⟨nil⟩

/-- The id that ends in this number. -/
def ofNat (n : Nat) : Uuid :=
  ⟨(List.range 16).map fun i => (n / Nat.pow 256 (15 - i)).toUInt8, by simp⟩

/-- Digits in groups of 8, 4, 4, 4 and 12 with hyphens between. -/
def grouped (ds : List Char) : List Char :=
  ds.take 8 ++ '-' :: (ds.drop 8).take 4 ++ '-' :: (ds.drop 12).take 4 ++
    '-' :: (ds.drop 16).take 4 ++ '-' :: ds.drop 20

/-- The canonical text. -/
def text (u : Uuid) : String := String.ofList (grouped (Digits.hex u.bytes))

/-- The 32 digits of a text in five groups. -/
def ungroup? (cs : List Char) : Option (List Char) :=
  let ds := cs.take 8 ++ (cs.drop 9).take 4 ++ (cs.drop 14).take 4 ++ (cs.drop 19).take 4 ++ cs.drop 24
  if cs.length = 36 ∧ cs = grouped ds then some ds else none

/-- The 32 digits of a text in braces, after `urn:uuid:`, in groups or plain. -/
def digits? (cs : List Char) : Option (List Char) :=
  match cs.length with
  | 32 => some cs
  | 36 => ungroup? cs
  | 38 =>
    if cs.head? = some '\x7b' ∧ cs.getLast? = some '\x7d' then ungroup? (cs.drop 1).dropLast
    else none
  | 45 =>
    if (cs.take 9).map Char.toLower = "urn:uuid:".toList then ungroup? (cs.drop 9) else none
  | _ => none

/-- The id that a text stands for. -/
def ofText? (s : String) : Option Uuid := do
  let ds ← digits? s.toList
  let bytes ← Digits.ofHex? ds
  ofBytes? bytes

end Uuid

end Sluice
