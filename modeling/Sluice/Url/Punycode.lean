import Sluice.Text.Digits

/-!
# Punycode

Decoding of labels that stand for characters beyond ASCII: the plain characters, then for each
other one its distance from the one before, in digits whose weight adapts.
-/

namespace Sluice.Punycode

/-- The value of a digit, `a` to `z` and `0` to `9`. -/
def digit? (c : Char) : Option Nat :=
  if c.isLower then some (c.toNat - 97)
  else if c.isUpper then some (c.toNat - 65)
  else if c.isDigit then some (c.toNat - 48 + 26)
  else none

/-- Divides by 35 until at most 455 is left, counting the steps; `fuel` bounds them. -/
def settle (fuel delta k : Nat) : Nat × Nat :=
  match fuel with
  | 0 => (delta, k)
  | fuel + 1 => if 455 < delta then settle fuel (delta / 35) (k + 36) else (delta, k)

/-- The bias for the next distance. -/
def adapt (delta count : Nat) (first : Bool) : Nat :=
  let delta := if first then delta / 700 else delta / 2
  let (delta, k) := settle 16 (delta + delta / count) 0
  k + 36 * delta / (delta + 38)

/-- The threshold of a digit. -/
def threshold (k bias : Nat) : Nat :=
  if k ≤ bias then 1 else if bias + 26 ≤ k then 26 else k - bias

/-- A distance, and what follows it. -/
def distance? (bias i w k : Nat) : List Char → Option (Nat × List Char)
  | [] => none
  | c :: r => do
    let d ← digit? c
    let i := i + d * w
    if 4294967295 < i then none
    let t := threshold k bias
    if d < t then return (i, r)
    else distance? bias i (w * (36 - t)) (k + 36) r

/-- Puts the characters into their places; `fuel` bounds their number. -/
def insertAll (fuel n i bias : Nat) (first : Bool) (out : List Nat) (cs : List Char) : Option (List Nat) :=
  match fuel, cs with
  | _, [] => some out
  | 0, _ => none
  | fuel + 1, cs => do
    let (next, rest) ← distance? bias i 1 36 cs
    let count := out.length + 1
    let n := n + next / count
    if 0x10ffff < n ∨ (0xd800 ≤ n ∧ n < 0xe000) then none
    let place := next % count
    insertAll fuel n (place + 1) (adapt (next - i) count first) false
      (out.take place ++ n :: out.drop place) rest

/-- The plain characters before the last hyphen, and what follows it. -/
def cut (cs : List Char) : List Char × List Char :=
  let after := (cs.reverse.takeWhile (· != '-')).reverse
  let before := cs.length - after.length
  if before ≤ 1 then ([], cs) else (cs.take (before - 1), after)

/-- The characters that a label stands for. -/
def decode? (cs : List Char) : Option (List Char) := do
  let (plain, rest) := cut cs
  let out ← insertAll (rest.length + 1) 128 0 72 true (plain.map Char.toNat) rest
  return out.map Char.ofNat

end Sluice.Punycode
