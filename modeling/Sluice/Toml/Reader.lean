import Sluice.Text.Utf8
import Sluice.Toml.Scalar

/-!
# Reading TOML

`Toml.ofText?` reads a document. Values lie at most 79 brackets and braces deep, and a dotted key
has at most 79 parts.
-/

namespace Sluice.Toml

/-- How deep values may be nested, and how many parts a key may have. -/
def deepest : Nat := 79

/-! ### Between the values -/

/-- What follows a comment after its mark: an end of the line, or nothing. -/
def dropComment : List Char → List Char
  | [] => []
  | c :: r => if isPlain c then dropComment r else c :: r

/-- Without blanks at the start. -/
def dropBlanks (s : List Char) : List Char := s.dropWhile isBlank

/-- What follows an end of a line. -/
def lineBreak? : List Char → Option (List Char)
  | '\n' :: r => some r
  | '\r' :: '\n' :: r => some r
  | _ => none

/-- What follows the end of a line or of the document. -/
def lineEnd? (s : List Char) : Option (List Char) :=
  let s := match dropBlanks s with
    | '#' :: r => dropComment r
    | s => s
  if s.isEmpty then some [] else lineBreak? s

/-- What follows blanks, comments and ends of lines. -/
def dropGap (inComment : Bool) : List Char → Option (List Char)
  | [] => if inComment then none else some []
  | '\n' :: r => dropGap false r
  | '\r' :: '\n' :: r => dropGap false r
  | c :: r =>
    if inComment then (if isPlain c then dropGap true r else none)
    else if isBlank c then dropGap false r
    else if c == '#' then dropGap true r
    else some (c :: r)

/-! ### Keys -/

/-- A character of a key without quotes. -/
def isBare (c : Char) : Bool := c.isAlphanum || c == '_' || c == '-'

/-- One part of a key with blanks around it. -/
def readPart? (s : List Char) : Option (String × List Char) :=
  let found := match dropBlanks s with
    | '"' :: r => basic? r
    | '\'' :: r => literal? r
    | s => if (s.takeWhile isBare).isEmpty then none else some (s.takeWhile isBare, s.dropWhile isBare)
  found.map fun (cs, r) => (String.ofList cs, dropBlanks r)

/-- The parts of a key, `fuel` at most. -/
def readParts? : Nat → List Char → Option (List String × List Char)
  | 0, _ => none
  | fuel + 1, s => do
    let (k, r) ← readPart? s
    match r with
    | '.' :: r =>
      let (ks, r) ← readParts? fuel r
      return (k :: ks, r)
    | r => return ([k], r)

/-- A key: the way to its table, and its name there. -/
def readKey? (s : List Char) : Option ((List String × String) × List Char) := do
  let (ks, r) ← readParts? deepest s
  return ((ks.dropLast, ks.getLastD ""), r)

/-! ### Values -/

/-- The items of an array and its closing bracket; `fuel` bounds their number. -/
def readItems? (value : List Char → Option (Toml × List Char)) :
    Nat → List Char → Option (List Toml × List Char)
  | 0, _ => none
  | fuel + 1, s => do
    match ← dropGap false s with
    | ']' :: r => return ([], r)
    | s =>
      let (v, r) ← value s
      match ← dropGap false r with
      | ',' :: r =>
        let (vs, r) ← readItems? value fuel r
        return (v :: vs, r)
      | ']' :: r => return ([v], r)
      | _ => none

/-- A key, an equals sign and a value with blanks around it. -/
def readEntry? (value : List Char → Option (Toml × List Char)) (s : List Char) :
    Option ((List String × String) × Toml × List Char) := do
  let (k, r) ← readKey? s
  let (v, r) ← value (dropBlanks (← char? '=' r))
  return (k, v, dropBlanks r)

/-- The entries of a table in braces after those that have been read, and the closing brace; `fuel`
bounds their number. -/
def readEntries? (value : List Char → Option (Toml × List Char)) :
    Nat → Entries → List Char → Option (Entries × List Char)
  | 0, _, _ => none
  | fuel + 1, es, s => do
    let ((path, key), v, r) ← readEntry? value s
    let es ← put? path key v .header es
    match r with
    | ',' :: r => readEntries? value fuel es r
    | '\x7d' :: r => return (es, r)
    | _ => none

/-- A value whose brackets are nested at most `depth` deep. -/
def readValue? (depth : Nat) (s : List Char) : Option (Toml × List Char) :=
  match s with
  | '[' :: r =>
    match depth with
    | 0 => none
    | depth + 1 =>
      (readItems? (readValue? depth) (r.length + 1) r).map fun (vs, r) => (.array vs, r)
  | '\x7b' :: r =>
    match depth with
    | 0 => none
    | depth + 1 =>
      match dropBlanks r with
      | '\x7d' :: r => some (.table .braces [], r)
      | r =>
        (readEntries? (readValue? depth) (r.length + 1) [] r).map fun (es, r) =>
          (.table .braces es, r)
  | '"' :: _ | '\'' :: _ => (readString? s).map fun (t, r) => (.string t, r)
  | 't' :: 'r' :: 'u' :: 'e' :: r => some (.bool true, r)
  | 'f' :: 'a' :: 'l' :: 's' :: 'e' :: r => some (.bool false, r)
  | s => readNumber? s

/-! ### Documents -/

/-- A document so far: its entries, and the header of the table that is being filled. -/
structure Draft where
  /-- The entries. -/
  entries : Entries
  /-- The way to the table of the last header. -/
  header : List String

/-- A header after its first bracket. -/
def readHeader? (d : Draft) : List Char → Option (Draft × List Char)
  | '[' :: r => do
    let ((path, key), r) ← readKey? r
    let r ← char? ']' (← char? ']' r)
    return (⟨← openRow? path key d.entries, path ++ [key]⟩, r)
  | r => do
    let ((path, key), r) ← readKey? r
    let r ← char? ']' r
    return (⟨← openTable? path key d.entries, path ++ [key]⟩, r)

/-- An entry of the table that is being filled. -/
def readLine? (d : Draft) (s : List Char) : Option (Draft × List Char) := do
  let ((path, key), v, r) ← readEntry? (readValue? deepest) s
  return ({ d with entries := ← putBelow? d.header path key v d.entries }, r)

/-- The lines of a document, `fuel` at most. -/
def readLines? : Nat → Draft → List Char → Option Draft
  | 0, _, _ => none
  | fuel + 1, d, s =>
    match dropBlanks s with
    | [] => some d
    | '[' :: r => do
      let (d, r) ← readHeader? d r
      readLines? fuel d (← lineEnd? r)
    | c :: r =>
      if c == '#' || c == '\n' || c == '\r' then do readLines? fuel d (← lineEnd? (c :: r))
      else do
        let (d, r) ← readLine? d (c :: r)
        readLines? fuel d (← lineEnd? r)

/-- Without a byte order mark at the start. -/
def dropMark : List Char → List Char
  | '\ufeff' :: r => r
  | s => s

/-- The document that characters stand for. -/
def ofChars? (s : List Char) : Option Toml :=
  (readLines? (s.length + 1) ⟨[], []⟩ (dropMark s)).map fun d => .table .header d.entries

end Sluice.Toml
