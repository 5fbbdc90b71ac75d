import Sluice.Number.Binary64

/-!
# Reading numbers

* `Number.natural?` reads an unsigned number up to a bound; one plus sign may stand before it;
* `Number.float?` reads a decimal fraction with an optional exponent, an infinity or a NaN.
-/

namespace Sluice.Number

/-- Digits with an optional plus sign, of a value of at most `bound`. -/
def natural? (bound : Nat) (s : String) : Option Nat :=
  let digits := match s.toList with
    | '+' :: r => r
    | cs => cs
  (Digits.value? digits).filter (· ≤ bound)

/-- An unsigned number of 16 bits. -/
def uint16? (s : String) : Option UInt16 := (natural? 65535 s).map Nat.toUInt16

/-- An unsigned number of 32 bits. -/
def uint32? (s : String) : Option UInt32 := (natural? 4294967295 s).map Nat.toUInt32

/-- An unsigned number of 64 bits. -/
def uint64? (s : String) : Option UInt64 := (natural? 18446744073709551615 s).map Nat.toUInt64

/-- A truth value, written `true` or `false`. -/
def bool? (s : String) : Option Bool :=
  if s == "true" then some true else if s == "false" then some false else none

/-- The exponent that follows a fraction: nothing, or `e` and a number with an optional sign. -/
def exponent? : List Char → Option Int
  | [] => some 0
  | c :: r =>
    if c == 'e' || c == 'E' then
      match r with
      | '-' :: ds => (Digits.value? ds).map fun n => -(n : Int)
      | '+' :: ds => (Digits.value? ds).map Int.ofNat
      | ds => (Digits.value? ds).map Int.ofNat
    else none

/-- A fraction without a sign: digits around an optional point, at least one of them, and an
optional exponent. -/
def fraction? (cs : List Char) : Option Float :=
  let whole := cs.takeWhile Char.isDigit
  let (places, rest) := match cs.dropWhile Char.isDigit with
    | '.' :: r => (r.takeWhile Char.isDigit, r.dropWhile Char.isDigit)
    | r => ([], r)
  if whole.isEmpty && places.isEmpty then none
  else (exponent? rest).map fun e =>
    Binary64.ofDecimal (Digits.value (whole ++ places)) (e - places.length)

/-- A number: a sign, then a fraction, `inf`, `infinity` or `nan` in any letter case. -/
def float? (s : String) : Option Float :=
  let (negative, body) := match s.toList with
    | '-' :: r => (true, r)
    | '+' :: r => (false, r)
    | cs => (false, cs)
  let word := String.ofList (body.map Char.toLower)
  let magnitude :=
    if word == "inf" || word == "infinity" then some (1.0 / 0.0)
    else if word == "nan" then some (0.0 / 0.0)
    else fraction? body
  magnitude.map fun x => if negative then -x else x

end Sluice.Number
