/-!
# Route templates

Targets that differ only in an id share a bucket. An id is a path segment of digits; it stays in
the key if a major parameter stands before it.

* `Route.segments` cuts a path at its slashes;
* `Route.collapse` replaces the ids;
* `Route.path` writes the segments that are left.
-/

namespace Sluice

/-- The path segments whose id belongs to the key. -/
structure Route where
  /-- The major parameters. -/
  majors : List String
  deriving DecidableEq, Repr

namespace Route

/-- Channels, guilds and webhooks have a bucket for each id. -/
def standard : Route := ⟨["channels", "guilds", "webhooks"]⟩

instance : Inhabited Route := ⟨standard⟩

/-- The pieces of a path between its slashes; `piece` holds the current one backwards. -/
def pieces (piece : List Char) : List Char → List (List Char)
  | [] => [piece.reverse]
  | '/' :: r => piece.reverse :: pieces [] r
  | c :: r => pieces (c :: piece) r

/-- The pieces that are not empty. -/
def segments (path : List Char) : List (List Char) :=
  (pieces [] path).filter (!·.isEmpty)

/-- A segment of digits (`is_id`). -/
def isId (segment : List Char) : Bool := !segment.isEmpty && segment.all Char.isDigit

/-- What stands in a key for an id. -/
def placeholder : List Char := "\x7bid\x7d".toList

variable (r : Route)

/-- A major parameter (`is_major`). -/
def isMajor (segment : List Char) : Bool := r.majors.any fun m => m.toList == segment

/-- The segment is an id that `previous` does not make part of the key. -/
def isMinorId (previous : Option (List Char)) (segment : List Char) : Bool :=
  isId segment && !(previous.any r.isMajor)

/-- The segments with a placeholder for every minor id. -/
def collapse (previous : Option (List Char)) : List (List Char) → List (List Char)
  | [] => []
  | s :: rest => (if r.isMinorId previous s then placeholder else s) :: collapse (some s) rest

/-- Segments with a slash before each; a single slash if there are none. -/
def join : List (List Char) → List Char
  | [] => ['/']
  | ss => ss.flatMap ('/' :: ·)

/-- The template of a path (`template_path`). -/
def path (p : String) : String :=
  String.ofList (join (r.collapse none (segments p.toList)))

/-- The bucket of a request: its method in capitals and the template of its path. -/
def key (method path : String) : String := method.map Char.toUpper ++ " " ++ r.path path

end Route

end Sluice
