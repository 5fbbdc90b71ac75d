import Sluice.Text.Utf8
import Sluice.Url.Address
import Sluice.Url.DomainTable
import Sluice.Url.Punycode

/-!
# Domain names

A domain name is compared in lower case and with the replacements of internationalised names. It
must not have characters that delimit a URL, and labels that begin with `xn--` must stand for
characters that need no replacement.
-/

namespace Sluice.Url

/-- An ASCII character that no domain name has. -/
def isForbidden (c : Char) : Bool :=
  c.toNat ≤ 32 || c.toNat == 127 || "%#/:<>?@[\\]^|".toList.contains c

/-- A character as domain names have it; none if they do not. A character whose replacement is
beyond ASCII stands for it. -/
def mapped? (c : Char) : Option (List Char) :=
  let n := c.toNat
  if n < 128 then some [c.toLower]
  else if Text.inRanges DomainTable.disallowed n then none
  else if Text.inRanges DomainTable.altered n then
    some ((DomainTable.replacement? n).getD [c])
  else some [c]

/-- A character that a label may stand for as it is. -/
def isStable (c : Char) : Bool :=
  let n := c.toNat
  if n < 128 then !c.isUpper
  else !Text.inRanges DomainTable.disallowed n && !Text.inRanges DomainTable.altered n

/-- A joiner, which may only follow a mark. -/
def isJoiner (c : Char) : Bool := c.toNat == 0x200c || c.toNat == 0x200d

/-- A character of the category Mark. -/
def isMark (c : Char) : Bool := Text.inRanges DomainTable.marks c.toNat

/-- Joiners stand after marks only. -/
def joinersFit (previous : Option Char) : List Char → Bool
  | [] => true
  | c :: r => (!isJoiner c || previous.any isMark) && joinersFit (some c) r

/-- A label of characters beyond ASCII. -/
def isLabel (cs : List Char) : Bool := !(cs.head?.any isMark) && joinersFit none cs

/-- A label that is well formed: one that begins with `xn--` stands for other characters. -/
def labelFits (cs : List Char) : Bool :=
  match cs with
  | 'x' :: 'n' :: '-' :: '-' :: r =>
    match Punycode.decode? r with
    | some ds => ds.any (128 ≤ ·.toNat) && ds.all isStable && isLabel ds
    | none => false
  | cs => isLabel cs

/-- The domain name of bytes. -/
def domain? (s : Bytes) : Option (List Char) := do
  let cs ← Utf8.decode? s
  let cs := (← cs.mapM mapped?).flatten
  if cs.any isForbidden then none
  else if (dotted cs).all labelFits then some cs
  else none

end Sluice.Url
