/-!
Paths as text, and the parts they are made of.

Two texts can name the same path: repeated slashes and a point inside a path mean nothing. A point
in front of a relative path is kept as a part.
-/

namespace Phrasebook.Path

inductive Part where
  | root
  | here
  | up
  | name (text : String)
deriving DecidableEq, Repr

/-- The pieces of a text between slashes. -/
def pieces : List Char → List (List Char)
  | [] => [[]]
  | c :: cs =>
      if c = '/' then [] :: pieces cs
      else
        match pieces cs with
        | [] => [[c]]
        | p :: ps => (c :: p) :: ps

/-- The part that a piece behind the first stands for. -/
def partOf (piece : List Char) : Option Part :=
  if piece = [] || piece = ['.'] then none
  else if piece = ['.', '.'] then some .up
  else some (.name (String.ofList piece))

/-- The parts of a path. -/
def parts (path : String) : List Part :=
  let all := pieces path.toList
  let inner := all.filterMap partOf
  match all with
  | [] :: _ :: _ => .root :: inner
  | ['.'] :: _ => .here :: inner
  | _ => inner

/-- Whether a path starts at the root. -/
def isAbsolute (path : String) : Bool := path.toList.head? = some '/'

/-- The last part of a path, if it is a name. -/
def fileName? (path : String) : Option String :=
  match (parts path).getLast? with
  | some (.name text) => some text
  | _ => none

/-- Splits a name at its last point; a point in front does not count. -/
def splitName (name : List Char) : List Char × Option (List Char) :=
  let ext := (name.reverse.takeWhile (· ≠ '.')).reverse
  let stem := name.take (name.length - ext.length - 1)
  if ext.length = name.length || stem.isEmpty then (name, none) else (stem, some ext)

/-- What follows the last point of the file name. -/
def extension? (path : String) : Option String :=
  (fileName? path).bind fun name => (splitName name.toList).2.map String.ofList

/-- `path` seen from `base`: an absolute path stands alone. -/
def join (base path : String) : String :=
  if isAbsolute path || base.isEmpty then path
  else if base.toList.getLast? = some '/' then base ++ path
  else base ++ "/" ++ path

/-- Whether a piece means nothing when it stands behind the first. -/
def isIdle (piece : List Char) : Bool := piece = [] || piece = ['.']

/-- The shortened paths on the way up, given and written with the last piece first. -/
def shortened : List (List Char) → List (List (List Char))
  | [] => []
  | [p] => [[p]]
  | p :: ps => if isIdle p then shortened ps else (p :: ps) :: shortened ps

/-- The text of a path that is given by its pieces. -/
def ofPieces (ps : List (List Char)) : String :=
  if ps = [[]] then "/" else "/".intercalate (ps.map String.ofList)

/-- The directories above a path, nearest first. A relative path ends with the empty one. -/
def parents (path : String) : List String :=
  let above := (shortened (pieces path.toList).reverse).tail.map fun ps => ofPieces ps.reverse
  if isAbsolute path || path.isEmpty then above else above ++ [""]

/-- The directory that a path lies in. -/
def parent? (path : String) : Option String := (parents path).head?

/-- A path without the point in front of it, and without what means nothing at its ends. -/
def withoutHere (path : String) : String :=
  match pieces path.toList with
  | ['.'] :: ps =>
      "/".intercalate
        ((((ps.dropWhile isIdle).reverse.dropWhile isIdle).reverse).map String.ofList)
  | _ => path

/-- The text of a part. -/
def Part.text : Part → String
  | .root => "/"
  | .here => "."
  | .up => ".."
  | .name text => text

/-- The path from `base` to `path`, if `path` lies there; otherwise `path`. -/
def relative (base path : String) : String :=
  if (parts base).isPrefixOf (parts path) then
    "/".intercalate (((parts path).drop (parts base).length).map Part.text)
  else path

/-- The order of parts: the root first, then points, then names by their characters. -/
def Part.le : Part → Part → Bool
  | .root, _ => true
  | _, .root => false
  | .here, _ => true
  | _, .here => false
  | .up, _ => true
  | _, .up => false
  | .name a, .name b => a ≤ b

/-- The order of paths part by part. -/
def partsLe : List Part → List Part → Bool
  | [], _ => true
  | _ :: _, [] => false
  | a :: as, b :: bs => if a = b then partsLe as bs else a.le b

/-- The order of paths. -/
def le (a b : String) : Bool := partsLe (parts a) (parts b)

end Phrasebook.Path
