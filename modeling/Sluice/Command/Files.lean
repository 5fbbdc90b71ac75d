import Sluice.Quota.Ledger
import Sluice.Text.Utf8

/-!
# A directory of files

Files and ledgers under one directory. A path is the names on it, so `a//b` and `./a/b` lead to the
same place.

* `Files.find` is what is at a path;
* `Files.place` says whether a ledger can be kept at a path, and `Files.rows` is the one that is.
-/

namespace Sluice.Command

/-- What is at a path. -/
inductive Found where
  /-- Nothing. -/
  | nothing
  /-- A file. -/
  | file (content : Bytes)
  /-- Something that cannot be read. -/
  | unreadable (reason : String)
  deriving DecidableEq, Repr

/-- Files and ledgers by the names on their paths. -/
structure Files where
  /-- Files. -/
  files : List (List String × Bytes)
  /-- Ledgers. -/
  ledgers : List (List String × Catalog Row)

namespace Files

/-- The names on a path. -/
def names (path : String) : List String :=
  (path.splitOn "/").filter fun s => s != "" && s != "."

/-- Files and ledgers by their paths. -/
def ofLists (files : List (String × Bytes)) (ledgers : List (String × Catalog Row)) : Files :=
  ⟨files.map fun f => (names f.1, f.2), ledgers.map fun l => (names l.1, l.2)⟩

/-- The names on the paths of everything that is not a directory. -/
def all (fs : Files) : List (List String) := fs.files.map (·.1) ++ fs.ledgers.map (·.1)

/-- There is a directory at a path. -/
def isDirectory (fs : Files) (p : List String) : Bool :=
  p.isEmpty || fs.all.any fun o => p.isPrefixOf o && o != p

/-- What is at a path. -/
def find (fs : Files) (path : String) : Found :=
  let p := names path
  match fs.files.lookup p with
  | some s => .file s
  | none => if fs.isDirectory p then .unreadable "Is a directory (os error 21)" else .nothing

/-- Whether a ledger can be kept at a path. An empty path is a place of its own. -/
def place (fs : Files) (path : String) : Ledger.Place :=
  let p := names path
  if path.isEmpty then .file
  else if fs.isDirectory p || path.endsWith "/" then .directory
  else if (fs.files.lookup p).any (!·.isEmpty) then .foreign
  else if fs.all.any fun o => o.isPrefixOf p && o != p then .belowFile
  else .file

/-- The ledger at a path. -/
def rows (fs : Files) (path : String) : Catalog Row := (fs.ledgers.lookup (names path)).getD .empty

end Files

end Sluice.Command
