import ApiStubs.Text.Split

/-!
# Paths

A path is a text whose components stand between slashes.  Empty components and single dots do not
count, except for a dot at the very beginning, which is a component of a relative path.  A path that
begins with a slash is absolute.
-/

namespace ApiStubs.Path

/-- Whether the path begins with a slash. -/
def isAbsolute (path : String) : Bool := path.toList.head? == some '/'

/-- A path taken relative to a directory; an absolute path stands for itself. -/
def join (root name : String) : String :=
  if isAbsolute name || root = "" then name
  else if root.toList.getLast? == some '/' then root ++ name
  else root ++ "/" ++ name

/-- Whether a piece between slashes adds nothing to a path. -/
def isSilent (piece : String) : Bool := piece = "" || piece = "."

/-- The components of a path.  The root of an absolute path is the empty text. -/
def components (path : String) : List String :=
  if path = "" then []
  else
    match Text.segments '/' path with
    | [] => []
    | first :: rest => first :: rest.filter fun piece => !isSilent piece

/-- The pieces of a path without silent ones at its end; the first piece stays. -/
def trimPieces (pieces : List String) : List String :=
  match pieces with
  | [] => []
  | first :: rest => first :: (rest.reverse.dropWhile isSilent).reverse

/-- The path of pieces, of which the first is empty when the path is absolute. -/
def ofPieces (pieces : List String) : String :=
  if pieces = [""] then "/" else Text.joinWith "/" pieces

/-- The directory that a path names something in; a root and the empty path have none. -/
def parent? (path : String) : Option String :=
  if path = "" then none
  else
    match trimPieces (Text.segments '/' path) with
    | [] => none
    | [only] => if only = "" then none else some ""
    | first :: rest => some (ofPieces (trimPieces (first :: rest.dropLast)))

/-- The parents of a path from the inside out, with fuel. -/
def ancestorsFrom : Nat → String → List String
  | 0, _ => []
  | fuel + 1, path =>
    if path = "" then []
    else
      match parent? path with
      | none => [path]
      | some parent => path :: ancestorsFrom fuel parent

/-- A path and the directories it lies in, from the inside out, but not the empty path. -/
def ancestors (path : String) : List String := ancestorsFrom (path.length + 1) path

end ApiStubs.Path
