/-!
# Methods of HTTP

A method is a word of letters, digits and some signs. `HttpMethod.read?` takes one in any letter
case.
-/

namespace Sluice.HttpMethod

/-- The signs that may stand in a word. -/
def signs : List Char :=
  ['!', '#', '$', '%', '&', '\'', '*', '+', '-', '.', '^', '_', '\x60', '|', '~']

/-- A character may stand in a word. -/
def isWordChar (c : Char) : Bool := c.isAlphanum || signs.contains c

/-- A method in capital letters. -/
def read? (s : String) : Option String :=
  let cs := s.toList.map Char.toUpper
  if !cs.isEmpty && cs.all isWordChar then some (String.ofList cs) else none

end Sluice.HttpMethod
