import Sluice.MessagePack.Basic

/-!
# Reading MessagePack

`MessagePack.read?` reads the value at the start of a row of bytes; bytes that follow it are left
alone. Rows, maps and extensions may be nested up to a depth of `MessagePack.deepest`.
-/

namespace Sluice.MessagePack

/-- One more than the number of nested rows, maps and extensions. -/
def deepest : Nat := 1024

/-- The number that bytes stand for, most significant first. -/
def bigEndian (s : Bytes) : Nat := s.foldl (fun acc b => acc * 256 + b.toNat) 0

/-- The first `n` bytes and the rest. -/
def split? (n : Nat) (s : Bytes) : Option (Bytes × Bytes) :=
  let front := s.take n
  if front.length = n then some (front, s.drop n) else none

/-- A number of `n` bytes. -/
def unsigned? (n : Nat) (s : Bytes) : Option (Nat × Bytes) :=
  (split? n s).map fun (b, r) => (bigEndian b, r)

/-- A number of `n` bytes whose first bit counts negatively. -/
def signed? (n : Nat) (s : Bytes) : Option (Int × Bytes) :=
  (unsigned? n s).map fun (u, r) =>
    (if 2 * u < Nat.pow 256 n then (u : Int) else (u : Int) - Nat.pow 256 n, r)

/-- As many bytes as a number of `n` bytes says. -/
def sized? (n : Nat) (s : Bytes) : Option (Bytes × Bytes) := do
  let (len, s) ← unsigned? n s
  split? len s

/-- `n` values in a row. -/
def readItems (value : Bytes → Option (MessagePack × Bytes)) :
    Nat → Bytes → Option (List MessagePack × Bytes)
  | 0, s => some ([], s)
  | n + 1, s => do
    let (v, s) ← value s
    let (vs, s) ← readItems value n s
    return (v :: vs, s)

/-- `n` pairs in a row. -/
def readMembers (value : Bytes → Option (MessagePack × Bytes)) :
    Nat → Bytes → Option (List (MessagePack × MessagePack) × Bytes)
  | 0, s => some ([], s)
  | n + 1, s => do
    let (k, s) ← value s
    let (v, s) ← value s
    let (ms, s) ← readMembers value n s
    return ((k, v) :: ms, s)

/-- What a first byte announces. -/
inductive Head where
  /-- A value that is complete. -/
  | value (v : MessagePack)
  /-- A number in this many bytes. -/
  | unsigned (width : Nat)
  /-- A number with a sign in this many bytes. -/
  | signed (width : Nat)
  /-- A floating point number in this many bytes. -/
  | float (width : Nat)
  /-- A text of this many bytes. -/
  | text (length : Nat)
  /-- A text after its length in this many bytes. -/
  | textSized (width : Nat)
  /-- Bytes after their number in this many bytes. -/
  | bytesSized (width : Nat)
  /-- This many values. -/
  | array (length : Nat)
  /-- Values after their number in this many bytes. -/
  | arraySized (width : Nat)
  /-- This many pairs. -/
  | map (length : Nat)
  /-- Pairs after their number in this many bytes. -/
  | mapSized (width : Nat)
  /-- An extension of this many bytes after its type. -/
  | ext (length : Nat)
  /-- An extension after its length in this many bytes. -/
  | extSized (width : Nat)
  /-- The byte that announces nothing. -/
  | reserved
  deriving Repr

/-- What a first byte announces. -/
def head (b : UInt8) : Head :=
  let n := b.toNat
  if n < 0x80 then .value (.uint n)
  else if n < 0x90 then .map (n - 0x80)
  else if n < 0xa0 then .array (n - 0x90)
  else if n < 0xc0 then .text (n - 0xa0)
  else if 0xe0 ≤ n then .value (.int ((n : Int) - 256))
  else match n with
    | 0xc0 => .value .nil
    | 0xc2 => .value (.bool false)
    | 0xc3 => .value (.bool true)
    | 0xc4 => .bytesSized 1
    | 0xc5 => .bytesSized 2
    | 0xc6 => .bytesSized 4
    | 0xc7 => .extSized 1
    | 0xc8 => .extSized 2
    | 0xc9 => .extSized 4
    | 0xca => .float 4
    | 0xcb => .float 8
    | 0xcc => .unsigned 1
    | 0xcd => .unsigned 2
    | 0xce => .unsigned 4
    | 0xcf => .unsigned 8
    | 0xd0 => .signed 1
    | 0xd1 => .signed 2
    | 0xd2 => .signed 4
    | 0xd3 => .signed 8
    | 0xd4 => .ext 1
    | 0xd5 => .ext 2
    | 0xd6 => .ext 4
    | 0xd7 => .ext 8
    | 0xd8 => .ext 16
    | 0xd9 => .textSized 1
    | 0xda => .textSized 2
    | 0xdb => .textSized 4
    | 0xdc => .arraySized 2
    | 0xdd => .arraySized 4
    | 0xde => .mapSized 2
    | 0xdf => .mapSized 4
    | _ => .reserved

/-- The value at the start of the bytes, nested less than `depth` deep. -/
def readValue : Nat → Bytes → Option (MessagePack × Bytes)
  | 0, _ => none
  | _ + 1, [] => none
  | depth + 1, b :: s =>
    match head b with
    | .value v => some (v, s)
    | .unsigned w => (unsigned? w s).map fun (n, r) => (.uint n, r)
    | .signed w => (signed? w s).map fun (n, r) => (.int n, r)
    | .float w => (split? w s).map fun (_, r) => (.float, r)
    | .text n => (split? n s).map fun (t, r) => (.str t, r)
    | .textSized w => (sized? w s).map fun (t, r) => (.str t, r)
    | .bytesSized w => (sized? w s).map fun (t, r) => (.bin t, r)
    | .array n =>
      if depth = 0 then none
      else (readItems (readValue depth) n s).map fun (vs, r) => (.array vs, r)
    | .arraySized w =>
      if depth = 0 then none
      else (unsigned? w s).bind fun (n, s) =>
        (readItems (readValue depth) n s).map fun (vs, r) => (.array vs, r)
    | .map n =>
      if depth = 0 then none
      else (readMembers (readValue depth) n s).map fun (ms, r) => (.map ms, r)
    | .mapSized w =>
      if depth = 0 then none
      else (unsigned? w s).bind fun (n, s) =>
        (readMembers (readValue depth) n s).map fun (ms, r) => (.map ms, r)
    | .ext n => if depth = 0 then none else (split? (n + 1) s).map fun (_, r) => (.ext, r)
    | .extSized w =>
      if depth = 0 then none
      else (unsigned? w s).bind fun (n, s) => (split? (n + 1) s).map fun (_, r) => (.ext, r)
    | .reserved => none

/-- The value at the start of the bytes, and what follows it. -/
def read? (s : Bytes) : Option (MessagePack × Bytes) := readValue deepest s

end Sluice.MessagePack
