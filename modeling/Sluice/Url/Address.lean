import Sluice.Text.Digits

/-!
# Addresses in hosts

* `Url.endsInNumber` says whether a host must be an IPv4 address, `Url.isIpv4` whether it is one;
* `Url.isIpv6` says whether the text between brackets is an IPv6 address.
-/

namespace Sluice.Url

/-! ### IPv4 -/

/-- The value of digits in a base, if all of them are such. -/
def inBase? (base : Nat) (cs : List Char) : Option Nat :=
  cs.foldlM (fun acc c => match Digits.hexValue? c with
    | some d => if d < base then some (acc * base + d) else none
    | none => none) 0

/-- A number of an IPv4 address: decimal, hexadecimal after `0x`, octal after another `0`. -/
def ipv4Number? : List Char → Option Nat
  | [] => none
  | '0' :: 'x' :: r | '0' :: 'X' :: r => inBase? 16 r
  | ['0'] => some 0
  | '0' :: r => inBase? 8 r
  | cs => inBase? 10 cs

/-- The pieces of a text between dots. -/
def dotted (cs : List Char) : List (List Char) :=
  match cs with
  | [] => [[]]
  | '.' :: r => [] :: dotted r
  | c :: r => match dotted r with
    | [] => [[c]]
    | p :: ps => (c :: p) :: ps

/-- The pieces without an empty one at the end. -/
def numbered (cs : List Char) : List (List Char) :=
  let ps := dotted cs
  if 1 < ps.length ∧ ps.getLast? = some [] then ps.dropLast else ps

/-- The last piece of a host is a number. -/
def endsInNumber (cs : List Char) : Bool :=
  match (numbered cs).getLast? with
  | some p => (!p.isEmpty && p.all Char.isDigit) || (ipv4Number? p).isSome
  | none => false

/-- An IPv4 address: up to four numbers, of which the last fills the bytes that are left. -/
def isIpv4 (cs : List Char) : Bool :=
  match (numbered cs).mapM ipv4Number? with
  | some ns =>
    ns.length ≤ 4 && ns.dropLast.all (· < 256) && (ns.getLast?.getD 0) < Nat.pow 256 (5 - ns.length)
  | none => false

/-! ### IPv6 -/

/-- A number below 256 without a zero in front. -/
def isOctet (cs : List Char) : Bool :=
  match Digits.value? cs with
  | some n => n < 256 && (cs.length == 1 || cs.head? != some '0')
  | none => false

/-- Four decimal numbers. -/
def isDottedQuad (cs : List Char) : Bool :=
  let ps := dotted cs
  ps.length == 4 && ps.all isOctet

/-- The rest of an IPv6 address after `count` pieces; `gap` says whether a row of zeros has been
left out. `fuel` bounds the pieces. -/
def ipv6From (fuel count : Nat) (gap : Bool) (cs : List Char) : Bool :=
  match fuel with
  | 0 => false
  | fuel + 1 =>
    match cs with
    | [] => gap || count == 8
    | ':' :: r => count < 8 && !gap && ipv6From fuel (count + 1) true r
    | cs =>
      let ds := (cs.take 4).takeWhile fun c => (Digits.hexValue? c).isSome
      count < 8 && match cs.drop ds.length with
        | [] => ipv6From fuel (count + 1) gap []
        | '.' :: _ => !ds.isEmpty && count ≤ 6 && isDottedQuad cs && (gap || count == 6)
        | ':' :: r => !r.isEmpty && ipv6From fuel (count + 1) gap r
        | _ => false

/-- An IPv6 address. -/
def isIpv6 (cs : List Char) : Bool :=
  match cs with
  | ':' :: ':' :: r => ipv6From (r.length + 1) 1 true r
  | ':' :: _ => false
  | cs => 2 ≤ cs.length && ipv6From (cs.length + 1) 0 false cs

end Sluice.Url
