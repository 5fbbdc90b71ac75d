import Sluice.MessagePack.Basic

/-!
# Writing MessagePack

Every number, text, row and map has the shortest header that can hold it.
-/

namespace Sluice.MessagePack

/-- The low `width` bytes of a number, most significant first. -/
def bigEndianBytes (width n : Nat) : Bytes :=
  match width with
  | 0 => []
  | width + 1 => (n / Nat.pow 256 width).toUInt8 :: bigEndianBytes width n

/-- A natural number. -/
def naturalBytes (n : Nat) : Bytes :=
  if n < 128 then [n.toUInt8]
  else if n < 256 then 0xcc :: bigEndianBytes 1 n
  else if n < 65536 then 0xcd :: bigEndianBytes 2 n
  else if n < 4294967296 then 0xce :: bigEndianBytes 4 n
  else 0xcf :: bigEndianBytes 8 n

/-- A number below zero. -/
def negativeBytes (n : Int) : Bytes :=
  if -32 ≤ n then [(n + 256).toNat.toUInt8]
  else if -128 ≤ n then 0xd0 :: bigEndianBytes 1 (n + 256).toNat
  else if -32768 ≤ n then 0xd1 :: bigEndianBytes 2 (n + 65536).toNat
  else if -2147483648 ≤ n then 0xd2 :: bigEndianBytes 4 (n + 4294967296).toNat
  else 0xd3 :: bigEndianBytes 8 (n + 18446744073709551616).toNat

/-- The header of a text. -/
def textHeader (n : Nat) : Bytes :=
  if n < 32 then [(0xa0 + n).toUInt8]
  else if n < 256 then 0xd9 :: bigEndianBytes 1 n
  else if n < 65536 then 0xda :: bigEndianBytes 2 n
  else 0xdb :: bigEndianBytes 4 n

/-- The header of bytes. -/
def bytesHeader (n : Nat) : Bytes :=
  if n < 256 then 0xc4 :: bigEndianBytes 1 n
  else if n < 65536 then 0xc5 :: bigEndianBytes 2 n
  else 0xc6 :: bigEndianBytes 4 n

/-- The header of a row. -/
def arrayHeader (n : Nat) : Bytes :=
  if n < 16 then [(0x90 + n).toUInt8]
  else if n < 65536 then 0xdc :: bigEndianBytes 2 n
  else 0xdd :: bigEndianBytes 4 n

/-- The header of a map. -/
def mapHeader (n : Nat) : Bytes :=
  if n < 16 then [(0x80 + n).toUInt8]
  else if n < 65536 then 0xde :: bigEndianBytes 2 n
  else 0xdf :: bigEndianBytes 4 n

mutual

/-- The bytes of a value. A floating point number or an extension, of which only the kind is known,
is written as nil. -/
def toBytes : MessagePack → Bytes
  | .nil => [0xc0]
  | .bool false => [0xc2]
  | .bool true => [0xc3]
  | .uint n => naturalBytes n
  | .int n => if 0 ≤ n then naturalBytes n.toNat else negativeBytes n
  | .float => [0xc0]
  | .str s => textHeader s.length ++ s
  | .bin s => bytesHeader s.length ++ s
  | .array items => arrayHeader items.length ++ itemBytes items
  | .map ms => mapHeader ms.length ++ memberBytes ms
  | .ext => [0xc0]

/-- The bytes of values in a row. -/
def itemBytes : List MessagePack → Bytes
  | [] => []
  | v :: vs => toBytes v ++ itemBytes vs

/-- The bytes of pairs in a row. -/
def memberBytes : List (MessagePack × MessagePack) → Bytes
  | [] => []
  | (k, v) :: ms => toBytes k ++ (toBytes v ++ memberBytes ms)

end

end Sluice.MessagePack
