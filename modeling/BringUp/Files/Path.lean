import BringUp.Text.Blank

/-!
# Paths

A path is a text of names with slashes between them. Empty names and single dots stand for nothing,
except that a path which starts with a slash starts at the top.
-/

namespace BringUp.Path

/-- The parts of a path between the slashes. -/
def parts (path : String) : List String :=
  (Text.pieces (· == '/') path.toList).map String.ofList

/-- Whether a path starts at the top. -/
def isAbsolute (path : String) : Bool := path.toList.head? == some '/'

/-- Whether a path ends in a slash. -/
def endsInSlash (path : String) : Bool := path.toList.getLast? == some '/'

/-- A path without the slashes at its end, unless it has nothing else. -/
def dropSlashes (path : String) : String :=
  let named := (path.toList.reverse.dropWhile (· == '/')).reverse
  if named.isEmpty then path else String.ofList named

/-- The path `right` seen from `left`: an absolute path stays as it is. -/
def join (left right : String) : String :=
  if isAbsolute right || left.isEmpty then right
  else if endsInSlash left then left ++ right
  else left ++ "/" ++ right

/-- Whether a part stands for nothing. -/
def isIdle (part : String) : Bool := part.isEmpty || part == "."

/-- The parts without those at the end that stand for nothing. -/
def dropIdle (parts : List String) : List String := (parts.reverse.dropWhile isIdle).reverse

/-- The parts of a relative path without its last name: a dot at its start counts as a name. -/
def relativeParent? : List String → Option (List String)
  | [] => none
  | first :: rest =>
    match dropIdle rest with
    | [] => if first.isEmpty then none else some []
    | named => some (first :: dropIdle named.dropLast)

/-- The path of the directory that a path lies in; nothing for the top and for the empty path. -/
def parent? (path : String) : Option String :=
  match parts path with
  | "" :: rest =>
    match dropIdle rest with
    | [] => none
    | named => some ("/" ++ "/".intercalate (dropIdle named.dropLast))
  | relative => (relativeParent? relative).map ("/".intercalate ·)

end BringUp.Path
