/-!
# Records

Documents give the fields of a record by name or by position. Either way the outcome is a list of
named values in which each name of the record occurs at most once.

* `Record.ofMembers?` takes named values: unknown names are passed over, a second value for a known
  name is refused;
* `Record.ofItems?` takes values in the order of the names: some may be missing at the end, none may
  be left over;
* `Record.get?` looks a field up.
-/

namespace Sluice

/-- The values found for the fields of a record. -/
abbrev Record (α : Type) := List (String × α)

namespace Record

variable {α : Type}

/-- The value of a field. -/
def get? (r : Record α) (name : String) : Option α := r.lookup name

/-- The fields among named values. -/
def ofMembers? (names : List String) (members : List (String × α)) : Option (Record α) :=
  let known := members.filter fun m => names.contains m.1
  if (known.map (·.1)).Nodup then some known else none

/-- The fields as values in the order of the names. -/
def ofItems? (names : List String) (items : List α) : Option (Record α) :=
  if items.length ≤ names.length then some (names.zip items) else none

end Record

end Sluice
