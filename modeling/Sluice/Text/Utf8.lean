/-!
# UTF-8

Characters as bytes and back.

* `Utf8.encode` writes characters;
* `Utf8.scan` reads any bytes: a character, or `none` for each longest run of bytes that begins a
  character and is broken off (or for one byte that begins none);
* `Utf8.decode?` succeeds on well-formed input only, `Utf8.lossy` puts U+FFFD for every `none`.

A byte below 128 is never taken into such a run, so text that is delimited by ASCII characters can
be cut before it is known to be well formed.
-/

namespace Sluice

/-- A sequence of bytes. -/
abbrev Bytes := List UInt8

namespace Utf8

/-- The bytes of a sequence of characters. -/
def encode (cs : List Char) : Bytes := cs.flatMap String.utf8EncodeChar

/-- The bytes of a text. -/
def ofString (s : String) : Bytes := encode s.toList

/-- A byte that continues a character, with its six bits. -/
def continuation? (b : UInt8) : Option Nat :=
  if 128 ≤ b.toNat ∧ b.toNat < 192 then some (b.toNat - 128) else none

/-- How a first byte goes on: the number of further bytes, its own bits, and the range of the
byte that follows. -/
def lead? (b : UInt8) : Option (Nat × Nat × Nat × Nat) :=
  let n := b.toNat
  if 194 ≤ n ∧ n < 224 then some (1, n - 192, 128, 191)
  else if n = 224 then some (2, 0, 160, 191)
  else if n = 237 then some (2, 13, 128, 159)
  else if 225 ≤ n ∧ n < 240 then some (2, n - 224, 128, 191)
  else if n = 240 then some (3, 0, 144, 191)
  else if 241 ≤ n ∧ n < 244 then some (3, n - 240, 128, 191)
  else if n = 244 then some (3, 4, 128, 143)
  else none

/-- Takes `k` more continuation bytes; the first of them lies between `lo` and `hi`. -/
def follow (k acc lo hi : Nat) (s : Bytes) : Option Char × Bytes :=
  match k, s with
  | 0, s => (some (Char.ofNat acc), s)
  | _ + 1, [] => (none, [])
  | k + 1, b :: r =>
    match continuation? b with
    | some bits => if lo ≤ b.toNat ∧ b.toNat ≤ hi then follow k (acc * 64 + bits) 128 191 r
        else (none, b :: r)
    | none => (none, b :: r)

theorem length_follow (k acc lo hi : Nat) (s : Bytes) : (follow k acc lo hi s).2.length ≤ s.length := by
  induction k generalizing acc lo hi s with
  | zero => simp [follow]
  | succ k ih =>
    cases s with
    | nil => simp [follow]
    | cons b r =>
      unfold follow
      split
      · split
        · exact Nat.le_trans (ih _ _ _ _) (by simp)
        · simp
      · simp

/-- One character, or `none` for bytes that are none, and what follows. -/
def next (b : UInt8) (r : Bytes) : Option Char × Bytes :=
  if b.toNat < 128 then (some (Char.ofNat b.toNat), r)
  else match lead? b with
    | some (k, bits, lo, hi) => follow k bits lo hi r
    | none => (none, r)

theorem length_next (b : UInt8) (r : Bytes) : (next b r).2.length ≤ r.length := by
  unfold next
  split
  · simp
  · split
    · exact length_follow _ _ _ _ _
    · simp

/-- The characters of any bytes, `none` where there is none. -/
def scan : Bytes → List (Option Char)
  | [] => []
  | b :: r => (next b r).1 :: scan (next b r).2
termination_by s => s.length
decreasing_by exact Nat.lt_succ_of_le (length_next b r)

/-- The characters of well-formed bytes. -/
def decode? (s : Bytes) : Option (List Char) := (scan s).mapM id

/-- The characters of any bytes, U+FFFD where there is none. -/
def lossy (s : Bytes) : List Char := (scan s).map (·.getD '\ufffd')

/-- The text of well-formed bytes. -/
def toString? (s : Bytes) : Option String := (decode? s).map String.ofList

/-- The text of any bytes, U+FFFD where there is no character. -/
def toStringLossy (s : Bytes) : String := String.ofList (lossy s)

end Utf8

end Sluice
