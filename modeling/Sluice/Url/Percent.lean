import Sluice.Text.Digits
import Sluice.Text.Utf8

/-!
# Percent encoding

A byte written as a percent sign and two hexadecimal digits.
-/

namespace Sluice.Url

/-- The bytes of a text in which percent signs with two digits stand for bytes. -/
def percentDecode : Bytes → Bytes
  | 37 :: a :: b :: r =>
    match Digits.hexNumber? [Char.ofNat a.toNat, Char.ofNat b.toNat] with
    | some n => n.toUInt8 :: percentDecode r
    | none => 37 :: percentDecode (a :: b :: r)
  | b :: r => b :: percentDecode r
  | [] => []

/-- A byte as a percent sign and two capital digits. -/
def percentByte (b : UInt8) : List Char := '%' :: (Digits.hexByte b).map Char.toUpper

/-- Writes characters as they are, unless they are in a set or beyond ASCII. -/
def percentEncode (special : Char → Bool) (cs : List Char) : List Char :=
  cs.flatMap fun c =>
    if special c || 127 ≤ c.toNat then (String.utf8EncodeChar c).flatMap percentByte else [c]

/-- Control characters. -/
def isControl (c : Char) : Bool := c.toNat < 32 || c.toNat == 127

/-- Characters that a path does not show as they are. -/
def isPathSpecial (c : Char) : Bool :=
  isControl c || [' ', '"', '<', '>', '\x60', '#', '?', '\x7b', '\x7d'].contains c

end Sluice.Url
