import Sluice.Url.Percent

/-!
# Paths

A path is cut at its slashes. A piece of one dot is passed over, a piece of two dots takes back the
piece before it, but never a drive letter; a dot may be written as `%2e`.
-/

namespace Sluice.Url

/-- A letter and a colon or a bar. -/
def isDrive : List Char → Bool
  | [c, d] => c.isAlpha && (d == ':' || d == '|')
  | _ => false

/-- A piece with `%2e` read as a dot. -/
def undot : List Char → List Char
  | '%' :: '2' :: 'e' :: r | '%' :: '2' :: 'E' :: r => '.' :: undot r
  | c :: r => c :: undot r
  | [] => []

/-- Takes back the last piece, unless it is a drive letter. The pieces are held backwards. -/
def takeBack : List (List Char) → List (List Char)
  | [] => []
  | p :: ps => if isDrive p then p :: ps else ps

/-- Adds a piece to a path held backwards. In a file path a drive letter at the start gets a colon,
and what follows it becomes a piece of its own. -/
def addPiece (file last : Bool) (piece : List Char) (path : List (List Char)) : List (List Char) :=
  if undot piece = ['.', '.'] then
    let path := takeBack path
    if last then [] :: path else path
  else if undot piece = ['.'] then if last then [] :: path else path
  else
    let encoded := percentEncode isPathSpecial piece
    match file && path.isEmpty, encoded with
    | true, [c, '|'] => if c.isAlpha then [[c, ':']] else [[c, '|']]
    | true, c :: ':' :: d :: r => if c.isAlpha then [d :: r, [c, ':']] else [c :: ':' :: d :: r]
    | _, _ => encoded :: path

/-- The pieces of a path, held backwards; `slash` says which characters cut. -/
def gather (file : Bool) (slash : Char → Bool) (path : List (List Char)) (piece : List Char) :
    List Char → List (List Char)
  | [] => addPiece file true piece.reverse path
  | c :: r =>
    if slash c then gather file slash (addPiece file false piece.reverse path) [] r
    else gather file slash path (c :: piece) r

/-- The text of a path after its first slash. -/
def pathChars (file : Bool) (slash : Char → Bool) (cs : List Char) : List Char :=
  let pieces := (gather file slash [] [] cs).reverse
  let pieces := if file then pieces.dropWhile List.isEmpty else pieces
  if pieces.isEmpty then ['/'] else pieces.flatMap ('/' :: ·)

end Sluice.Url
