import Sluice.Text.Digits

/-!
# Binary floating point numbers in exact arithmetic

* `Binary64.parts` takes a `Float` apart: a finite one is a natural number times a power of two;
* `Binary64.shortest` finds the fewest decimal digits that still read back as the same number, and
  of those the nearest;
* `Binary64.ofDecimal` is the number nearest to a decimal fraction.
-/

namespace Sluice.Binary64

/-- What a `Float` stands for. -/
inductive Parts where
  /-- No number. -/
  | nan
  /-- An infinity, negative or not. -/
  | infinite (negative : Bool)
  /-- `mant * 2 ^ exp`, negated if `negative`. -/
  | finite (negative : Bool) (mant : Nat) (exp : Int)
  deriving DecidableEq, Repr

/-- The parts of a number. -/
def parts (x : Float) : Parts :=
  let bits : Nat := x.toBits.toNat
  let negative := bits / 9223372036854775808 == 1
  let e : Nat := bits / 4503599627370496 % 2048
  let f : Nat := bits % 4503599627370496
  if e = 2047 then (if f = 0 then .infinite negative else .nan)
  else if e = 0 then .finite negative f (-1074)
  else .finite negative (4503599627370496 + f) ((e : Int) - 1075)

/-- A decimal fraction `digits * 10 ^ exp`. -/
structure Decimal where
  /-- The digits as a number. -/
  digits : Nat
  /-- The power of ten. -/
  exp : Int
  deriving DecidableEq, Repr

/-- The same value without zeros at the end; `fuel` bounds their number. -/
def Decimal.stripZeros (fuel : Nat) (d : Decimal) : Decimal :=
  match fuel with
  | 0 => d
  | fuel + 1 =>
    if d.digits ≠ 0 ∧ d.digits % 10 = 0 then stripZeros fuel ⟨d.digits / 10, d.exp + 1⟩ else d

/-- `num * 2 ^ e2 / 10 ^ e10` as a fraction of natural numbers. -/
def ratio (num : Nat) (e2 e10 : Int) : Nat × Nat :=
  (num * Nat.pow 2 e2.toNat * Nat.pow 10 (-e10).toNat,
    Nat.pow 2 (-e2).toNat * Nat.pow 10 e10.toNat)

/-- Whether `d * 10 ^ k` lies in the interval of reals that read back as `mant * 2 ^ exp`. Its
ends belong to it if `mant` is even; below a power of two it is half as wide. -/
def readsBack (mant : Nat) (exp : Int) (d : Nat) (k : Int) : Bool :=
  let below := if mant = 4503599627370496 ∧ -1074 < exp then 1 else 2
  let (p, q) := ratio d 0 (-k)
  let (lo, r) := ratio (4 * mant - below) (exp - 2) 0
  let (hi, s) := ratio (4 * mant + 2) (exp - 2) 0
  if mant % 2 = 0 then lo * q ≤ p * r && p * s ≤ hi * q
  else lo * q < p * r && p * s < hi * q

/-- The place of the first digit of `mant * 2 ^ exp`, `mant` positive. -/
def leadingPlace (mant : Nat) (exp : Int) : Int :=
  let (p, q) := ratio mant exp (-330)
  ((Nat.toDigits 10 (p / q)).length : Int) - 331

/-- The nearest point that reads back on the grid with `n` digits, if there is one. -/
def onGrid? (mant : Nat) (exp : Int) (place : Int) (n : Nat) : Option Decimal :=
  let k := place - n + 1
  let (p, q) := ratio mant exp k
  let d := p / q
  match readsBack mant exp d k, readsBack mant exp (d + 1) k with
  | true, true => some ⟨if 2 * (p % q) ≤ q then d else d + 1, k⟩
  | true, false => some ⟨d, k⟩
  | false, true => some ⟨d + 1, k⟩
  | false, false => none

/-- The shortest decimal that reads back as `mant * 2 ^ exp`. -/
def shortest (mant : Nat) (exp : Int) : Decimal :=
  if mant = 0 then ⟨0, 0⟩
  else
    let place := leadingPlace mant exp
    match (List.range 17).findSome? fun n => onGrid? mant exp place (n + 1) with
    | some d => d.stripZeros 20
    | none => ⟨0, 0⟩

/-- The number nearest to `digits * 10 ^ exp`, ties to the even neighbour. -/
def ofDecimal (digits : Nat) (exp : Int) : Float :=
  let place := ((Nat.toDigits 10 digits).length : Int) + exp
  if digits = 0 ∨ place < -330 then 0.0
  else if 310 < place then 1.0 / 0.0
  else Float.ofScientific digits (exp < 0) exp.natAbs

/-! ### Text -/

/-- How a number is written. -/
structure Style where
  /-- Whole numbers end in `.0`. -/
  point : Bool
  /-- Numbers of at least ten to the 16th, and nonzero ones below ten to the -4th, have an
  exponent. -/
  exponent : Bool
  deriving DecidableEq, Repr

/-- Positional notation: `3`, `0.25`, `1000`. -/
def positional (point : Bool) (d : Decimal) : List Char :=
  let ds := Nat.toDigits 10 d.digits
  if 0 ≤ d.exp then
    ds ++ List.replicate (if d.digits = 0 then 0 else d.exp.toNat) '0' ++
      (if point then ['.', '0'] else [])
  else
    let places := (-d.exp).toNat
    let ds := List.replicate (places + 1 - ds.length) '0' ++ ds
    ds.take (ds.length - places) ++ '.' :: ds.drop (ds.length - places)

/-- One digit before the point, and an exponent: `1e16`, `2.5e-7`. -/
def scientific (d : Decimal) : List Char :=
  let ds := Nat.toDigits 10 d.digits
  let e := d.exp + (ds.length - 1 : Nat)
  ds.take 1 ++ (if ds.length = 1 then [] else '.' :: ds.drop 1) ++ 'e' :: (toString e).toList

/-- The shortest text of a number. -/
def text (style : Style) (x : Float) : String :=
  match parts x with
  | .nan => "NaN"
  | .infinite negative => if negative then "-inf" else "inf"
  | .finite negative mant exp =>
    let d := shortest mant exp
    let place := ((Nat.toDigits 10 d.digits).length : Int) + d.exp
    let body :=
      if style.exponent ∧ mant ≠ 0 ∧ (16 < place ∨ place < -3) then scientific d
      else positional style.point d
    String.ofList (if negative then '-' :: body else body)

end Sluice.Binary64
