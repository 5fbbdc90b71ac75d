import Sluice.Logging.Level
import Sluice.Text.Blank

/-!
# Which log lines are written

A filter is a list of directives such as `warn`, `relay=debug` or `relay[span{field}]=trace`. Of
the directives that fit a line the most specific one decides.

* `Directive.parse?` reads one directive, `Filter.ofText` a list of them;
* `Filter.admits` says whether a line is written.

Nothing here opens spans. A directive that names one fits no line, but it counts as a directive, so
the usual level does not apply beside it.
-/

namespace Sluice

/-- What a directive says: the least important level that is written where it fits. -/
structure Directive where
  /-- What the target of a line begins with. -/
  target : Option String
  /-- The span that a line is in. -/
  span : Option String
  /-- The fields that a line has, some with a value. -/
  fields : List (String × Option String)
  /-- The least important level, none for no line at all. -/
  level : Option Level
  deriving DecidableEq, Repr

namespace Directive

/-- A level by number or name; `0` and `off` are for no line at all. -/
def level? (s : String) : Option (Option Level) :=
  if Number.uint64? s = some 0 || s.map Char.toLower == "off" then some none
  else (Level.parse? s).map some

/-- The level after an equals sign; nothing stands for all levels. -/
def levelAfter? (s : List Char) : Option (Option Level) :=
  if s.isEmpty then some (some .trace) else level? (String.ofList s)

/-- The piece of a text between two places. -/
def piece (text : List Char) (i j : Nat) : String := String.ofList ((text.drop i).take (j - i))

/-- The first place from `i` on that has one of some characters. -/
def find? (cs : List Char) (i : Nat) (marks : List Char) : Option (Nat × Char) :=
  ((cs.zipIdx.drop i).find? fun x => marks.contains x.1).map fun x => (x.2, x.1)

/-- A directive may begin with this character; characters beyond ASCII are taken for letters. -/
def isStart (c : Char) : Bool :=
  c.isAlphanum || c == '-' || c == ':' || c == '_' || 128 ≤ c.toNat

/-- What follows the span at a place: nothing, or an equals sign and the level. -/
def readEnd? (text cs : List Char) (target span : Option String)
    (fields : List (String × Option String)) (i : Nat) : Option Directive :=
  match cs[i]? with
  | none => some ⟨target, span, fields, some .trace⟩
  | some '=' => (levelAfter? (text.drop (i + 1))).map fun l => ⟨target, span, fields, l⟩
  | some _ => none

/-- A field with or without a value. -/
def field? (s : String) : Option (String × Option String) :=
  match s.splitOn "=" with
  | name :: value :: _ => some (name, some value)
  | _ => if s.isEmpty then none else some (s, none)

/-- A span with or without a field, from a place on. -/
def readSpan? (text cs : List Char) (target : Option String) (i : Nat) : Option Directive := do
  let (j, c) ← find? cs i [']', '\x7b']
  if c = ']' then readEnd? text cs target (some (piece text i j)) [] (j + 1)
  else
    let name := piece text i j
    let (k, _) ← find? cs (j + 1) ['\x7d']
    let f ← field? (piece text (j + 1) k)
    if cs[k + 1]? = some ']' then
      readEnd? text cs target (if name.isEmpty then none else some name) [f] (k + 2)
    else none

/-- Reads a directive. The places where it is cut are counted after the white space in front of it,
but the pieces are taken from the text with that white space. -/
def parse? (s : String) : Option Directive :=
  let text := s.toList
  let cs := Text.trimChars text
  match cs with
  | [] => none
  | '[' :: _ => readSpan? text cs none 1
  | c :: _ =>
    if !isStart c then none
    else match find? cs 0 ['=', '['] with
      | none =>
        match level? s with
        | some l => some ⟨none, none, [], l⟩
        | none => some ⟨some s, none, [], some .trace⟩
      | some (i, '=') =>
        (levelAfter? (text.drop (i + 1))).map fun l => ⟨some (piece text 0 i), none, [], l⟩
      | some (i, _) => readSpan? text cs (some (piece text 0 i)) (i + 1)

/-- A directive about levels in general. -/
def ofLevel (l : Level) : Directive := ⟨none, none, [], some l⟩

/-- A directive asks for a span or for a field with a value. -/
def asksForSpan (d : Directive) : Bool := d.span.isSome || d.fields.any (·.2.isSome)

/-- A directive fits a line with a target and some fields. -/
def fits (d : Directive) (target : String) (names : List String) : Bool :=
  !d.asksForSpan && d.target.all (target.startsWith ·) && d.fields.all (names.contains ·.1)

/-- The length of the target, more than zero if there is one. -/
def reach (d : Directive) : Nat := d.target.elim 0 (·.utf8ByteSize + 1)

/-- The names of the fields. -/
def names (d : Directive) : List String := d.fields.map (·.1)

/-- One directive is more specific than another: it has a target, a longer target, more fields, or
fields that come later in the order of names. -/
def isMoreSpecific (d e : Directive) : Bool :=
  e.reach < d.reach ||
    (e.reach == d.reach &&
      (e.names.length < d.names.length ||
        (e.names.length == d.names.length && e.names < d.names)))

end Directive

/-- What is written: what the most specific directive that fits says. -/
structure Filter where
  /-- The directives. -/
  directives : List Directive

namespace Filter

/-- The directives between commas that can be read; the usual level if there is none. -/
def ofText (usual : Level) (s : String) : Filter :=
  match (s.splitOn ",").filterMap Directive.parse? with
  | [] => ⟨[.ofLevel usual]⟩
  | ds => ⟨ds⟩

/-- The most specific of some directives; of equally specific ones the last. -/
def decisive? (ds : List Directive) : Option Directive :=
  ds.foldl (fun best d =>
    match best with
    | some e => if e.isMoreSpecific d then some e else some d
    | none => some d) none

/-- A line with a level, a target and some fields is written. -/
def admits (f : Filter) (level : Level) (target : String) (names : List String) : Bool :=
  match decisive? (f.directives.filter (·.fits target names)) with
  | some d => d.level.any (level.isWithin ·)
  | none => false

end Filter

end Sluice
