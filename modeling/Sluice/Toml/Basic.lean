import Sluice.Document

/-!
# TOML values

A value, a table or a row of tables. A table remembers how it came into being, since that decides
what may still be added to it.

* `Toml.put?` adds a value under a dotted key, `Toml.openTable?` and `Toml.openRow?` do what the two
  kinds of headers do; each of them refuses to define anything twice.
-/

namespace Sluice

/-- How a table came into being. -/
inductive Origin where
  /-- It has a header of its own, or is the document itself. -/
  | header
  /-- A header of another table below it names it. -/
  | implied
  /-- A dotted key names it. -/
  | dotted
  /-- It is written between braces. -/
  | braces
  deriving DecidableEq, Repr

/-- A TOML value. -/
inductive Toml where
  /-- A text. -/
  | string (s : String)
  /-- A whole number. -/
  | integer (n : Int)
  /-- A floating point number. -/
  | float (x : Float)
  /-- A truth value. -/
  | bool (b : Bool)
  /-- A date, a time or both, as it is written. -/
  | moment (s : String)
  /-- A row of values. -/
  | array (items : List Toml)
  /-- Named values. -/
  | table (origin : Origin) (entries : List (String × Toml))
  /-- A row of tables with headers. -/
  | rows (tables : List (List (String × Toml)))
  deriving Repr

namespace Toml

/-- Named values. -/
abbrev Entries := List (String × Toml)

/-- With another value for a name that has one, or with a further name. -/
def put (name : String) (v : Toml) : Entries → Entries
  | [] => [(name, v)]
  | (n, w) :: r => if n = name then (n, v) :: r else (n, w) :: put name v r

/-- Changes the table that a path leads to and makes the tables on the way that are missing. Of a
row it is the last table. A path of a dotted key does not enter tables that are complete. -/
def alter? (isKey : Bool) (f : Origin → Entries → Option (Origin × Entries)) :
    List String → Origin → Entries → Option (Origin × Entries)
  | [], o, es => f o es
  | k :: path, o, es =>
    let enter (o' : Origin) (inner : Entries) : Option (Origin × Entries) := do
      let (o', inner) ← alter? isKey f path o' inner
      return (o, put k (.table o' inner) es)
    match es.lookup k with
    | none => enter (if isKey then .dotted else .implied) []
    | some (.table .braces _) => none
    | some (.table .header inner) => if isKey then none else enter .header inner
    | some (.table o' inner) => enter o' inner
    | some (.rows tables) => do
      let (_, inner) ← alter? isKey f path .header (tables.getLast?.getD [])
      return (o, put k (.rows (tables.dropLast ++ [inner])) es)
    | some _ => none

/-- Adds a value under a dotted key to a table. The last table on the way must be one that dotted
keys make, and the key must be new. -/
def put? (path : List String) (key : String) (v : Toml) (o : Origin) (es : Entries) :
    Option Entries :=
  (alter? true (fun o es =>
    if (o = .dotted) = path.isEmpty ∨ (es.lookup key).isSome then none
    else some (o, put key v es)) path o es).map (·.2)

/-- Begins the table of a header, which may have been implied so far. -/
def openTable? (path : List String) (key : String) (es : Entries) : Option Entries :=
  (alter? false (fun o es =>
    match es.lookup key with
    | none => some (o, put key (.table .header []) es)
    | some (.table .implied inner) => some (o, put key (.table .header inner) es)
    | some _ => none) path .header es).map (·.2)

/-- Begins a table in the row of a header. -/
def openRow? (path : List String) (key : String) (es : Entries) : Option Entries :=
  (alter? false (fun o es =>
    match es.lookup key with
    | none => some (o, put key (.rows [[]]) es)
    | some (.rows tables) => some (o, put key (.rows (tables ++ [[]])) es)
    | some _ => none) path .header es).map (·.2)

/-- Adds a value under a dotted key to the table that a header began. -/
def putBelow? (header : List String) (path : List String) (key : String) (v : Toml)
    (es : Entries) : Option Entries :=
  (alter? false (fun o es => (put? path key v o es).map (o, ·)) header .header es).map (·.2)

/-! ### As documents -/

/-- The items of a row. -/
def items? : Toml → Option (List Toml)
  | .array items => some items
  | .rows tables => some (tables.map (.table .header))
  | _ => none

/-- The fields of a record: by name, or by position as far as they go. A date has no fields. -/
def record? (names : List String) : Toml → Option (Record Toml)
  | .table _ es => Record.ofMembers? names es
  | .moment _ => some []
  | v => v.items?.map fun items => names.zip items

instance : Document Toml where
  text? v :=
    match v with
    | .string s => some s
    | _ => none
  natural? bound v :=
    match v with
    | .integer n => if 0 ≤ n ∧ n ≤ bound then some n.toNat else none
    | _ => none
  float? v :=
    match v with
    | .float x => some x
    | .integer n => some (Float.ofInt n)
    | _ => none
  bool? v :=
    match v with
    | .bool b => some b
    | _ => none
  items? := items?
  isNull _ := false
  record? := record?

end Toml

end Sluice
