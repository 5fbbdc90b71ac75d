import Sluice.Json.Basic
import Sluice.Text.Utf8

/-!
# Writing JSON

The compact form: no space, members in their order, characters beyond ASCII as they are. Quotes,
backslashes and control characters of a text are escaped.
-/

namespace Sluice.Json

/-- A character inside of quotes. -/
def quotedChar (c : Char) : List Char :=
  if c = '"' then ['\\', '"']
  else if c = '\\' then ['\\', '\\']
  else if c = '\x08' then ['\\', 'b']
  else if c = '\x0c' then ['\\', 'f']
  else if c = '\n' then ['\\', 'n']
  else if c = '\r' then ['\\', 'r']
  else if c = '\t' then ['\\', 't']
  else if c.toNat < 32 then '\\' :: 'u' :: '0' :: '0' :: Digits.hexByte c.toNat.toUInt8
  else [c]

/-- A text in quotes. -/
def quoted (cs : List Char) : List Char := '"' :: cs.flatMap quotedChar ++ ['"']

/-- A number. -/
def numeralChars (n : Numeral) : List Char :=
  (if n.negative then ['-'] else []) ++ Digits.decimal n.whole ++
    (n.places.elim [] ('.' :: ·)) ++ (n.exponent.elim [] fun e => 'e' :: (toString e).toList)

/-- A text, empty if it is unreadable. -/
def textChars (s : Option String) : List Char := quoted (s.getD "").toList

mutual

/-- The characters of a value. -/
def chars : Json → List Char
  | .null => "null".toList
  | .bool true => "true".toList
  | .bool false => "false".toList
  | .number n => numeralChars n
  | .string s => textChars s
  | .array [] => ['[', ']']
  | .array (v :: vs) => '[' :: chars v ++ itemChars vs
  | .object [] => ['\x7b', '\x7d']
  | .object ((k, v) :: ms) => '\x7b' :: textChars k ++ ':' :: chars v ++ memberChars ms

/-- The items after the first and the closing bracket. -/
def itemChars : List Json → List Char
  | [] => [']']
  | v :: vs => ',' :: chars v ++ itemChars vs

/-- The members after the first and the closing brace. -/
def memberChars : List (Option String × Json) → List Char
  | [] => ['\x7d']
  | (k, v) :: ms => ',' :: textChars k ++ ':' :: chars v ++ memberChars ms

end

/-- The text of a value. -/
def text (j : Json) : String := String.ofList j.chars

/-- The bytes of a value. -/
def toUtf8 (j : Json) : Bytes := Utf8.encode j.chars

end Sluice.Json
