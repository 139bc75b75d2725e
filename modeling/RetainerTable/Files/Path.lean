/-!
File paths as text: names separated by slashes. Paths are joined and cut as text; nothing is looked
up and nothing simplified.
-/

namespace RetainerTable.Path

/-- The path begins at the root. -/
def isAbsolute (path : String) : Bool :=
  path.toList.head? = some '/'

/-- The second path as seen from the first. An absolute path is seen the same from everywhere. -/
def join (base path : String) : String :=
  if isAbsolute path || base = "" then path
  else if base.toList.getLast? = some '/' then base ++ path
  else base ++ "/" ++ path

/-- The texts between the slashes, empty ones included. -/
def pieces (cs : List Char) : List (List Char) :=
  match cs with
  | [] => [[]]
  | c :: cs =>
    match c, pieces cs with
    | '/', found => [] :: found
    | c, piece :: found => (c :: piece) :: found
    | c, [] => [[c]]

/-- The names that a path leads along, dots included. -/
def steps (path : String) : List String :=
  ((pieces path.toList).filter (· ≠ [])).map String.ofList

/-- The piece stands for no step: it is empty or a single dot. -/
def isVoid (piece : List Char) : Bool :=
  piece = [] || piece = ['.']

/-- The pieces without those at the end that stand for no step. -/
def dropVoid (pieces : List (List Char)) : List (List Char) :=
  (pieces.reverse.dropWhile isVoid).reverse

/-- The pieces joined by slashes. -/
def ofPieces (pieces : List (List Char)) : String :=
  String.intercalate "/" (pieces.map String.ofList)

/-- The path without its last step; the root and the empty path have no step. A dot in front of a
    relative path is a step. -/
def parent? (path : String) : Option String :=
  let cs := path.toList
  match cs with
  | [] => none
  | '/' :: cs =>
    match dropVoid (pieces cs) with
    | [] => none
    | steps => some ("/" ++ ofPieces (dropVoid steps.dropLast))
  | _ =>
    match pieces cs with
    | [] => none
    | first :: more =>
      match dropVoid more with
      | [] => some ""
      | steps => some (ofPieces (first :: dropVoid steps.dropLast))

end RetainerTable.Path
