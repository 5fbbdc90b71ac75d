import Sluice.Text.Digits
import Sluice.Text.HiddenTable

/-!
# Texts in quotes for people

`Text.quoted` writes a text in double quotes so that everything in it can be seen: quotes,
backslashes and common control characters have a letter, and whatever shows nothing by itself has
its number in braces.
-/

namespace Sluice.Text

/-- A number in lower-case hexadecimal. -/
def hexChars (n : Nat) : List Char := Nat.toDigits 16 n

/-- A character shows nothing by itself. -/
def isHidden (c : Char) : Bool := c.toNat < 32 || (127 ≤ c.toNat && inRanges hidden c.toNat)

/-- A character between quotes; `single` says whether single quotes have a backslash. -/
def shownChar (single : Bool) (c : Char) : List Char :=
  if c = '\x00' then ['\\', '0']
  else if c = '\t' then ['\\', 't']
  else if c = '\n' then ['\\', 'n']
  else if c = '\r' then ['\\', 'r']
  else if c = '"' then ['\\', '"']
  else if c = '\\' then ['\\', '\\']
  else if c = '\'' then (if single then ['\\', '\''] else ['\''])
  else if isHidden c then ['\\', 'u', '\x7b'] ++ hexChars c.toNat ++ ['\x7d']
  else [c]

/-- A text in double quotes. -/
def quoted (s : String) : String :=
  String.ofList ('"' :: s.toList.flatMap (shownChar false) ++ ['"'])

/-- The path of a file in double quotes. -/
def quotedPath (s : String) : String :=
  String.ofList ('"' :: s.toList.flatMap (shownChar true) ++ ['"'])

end Sluice.Text
