import BringUp.Files.Path
import BringUp.Text.Utf8

/-!
# Files

A file tree holds files and directories by their places. A place is the list of the names that lead
to it, and the working directory is the place with no names. The way up from there is spelled by
two dots for each directory, and the top by a slash; nothing is known of what else lies outside the
working directory. A path is walked name by name, and every name but the last has to be a directory.

* `read` gives the text of a file.
* `write` puts octets into a file, a new one if need be.
* `makeDirectories` makes a directory with all the directories on the way to it.
-/

namespace BringUp

/-- Why something cannot be done with a file. -/
inductive FileError where
  /-- There is no such file. -/
  | notFound
  /-- There is something of that name already. -/
  | alreadyExists
  /-- Something on the way is no directory. -/
  | notDirectory
  /-- A directory is no file. -/
  | isDirectory
  /-- A name is too long. -/
  | nameTooLong
  /-- A name holds a null character. -/
  | nullInName
  /-- The octets of a file are no text. -/
  | notText
  deriving Repr, DecidableEq

/-- The error in words. -/
def FileError.message : FileError → String
  | .notFound => "No such file or directory (os error 2)"
  | .alreadyExists => "File exists (os error 17)"
  | .notDirectory => "Not a directory (os error 20)"
  | .isDirectory => "Is a directory (os error 21)"
  | .nameTooLong => "File name too long (os error 36)"
  | .nullInName => "file name contained an unexpected NUL byte"
  | .notText => "stream did not contain valid UTF-8"

/-- What stands at a place. -/
inductive FileNode where
  /-- A file. -/
  | file (bytes : List UInt8)
  /-- A directory. -/
  | directory
  deriving Repr, DecidableEq

/-- Files and directories by their places, seen from a working directory. -/
structure FileTree where
  /-- The places, each once. -/
  entries : List (List String × FileNode) := []
  deriving Repr, DecidableEq, Inhabited

namespace FileTree

/-- The most octets that a name may have. -/
def nameLimit : Nat := 255

/-- The most octets that a path may have. -/
def pathLimit : Nat := 4095

/-- Whether a place is there whatever the tree holds: the working directory, a directory on the way
up from it, or the top. -/
def isGiven (place : List String) : Bool := place.all (· == "..") || place == ["/"]

/-- What stands at a place. -/
def node? (place : List String) (t : FileTree) : Option FileNode :=
  if isGiven place then some .directory else t.entries.lookup place

/-- The place of the directory that a directory lies in. -/
def above (place : List String) : List String :=
  if place.all (· == "..") then place ++ [".."]
  else if place == ["/"] then place
  else place.dropLast

/-- Goes from a directory to one that it holds. -/
def enter (t : FileTree) (place : List String) (name : String) :
    Except FileError (List String) :=
  if Path.isIdle name then .ok place
  else if name == ".." then .ok (above place)
  else if nameLimit < name.utf8ByteSize then .error .nameTooLong
  else
    match t.node? (place ++ [name]) with
    | some .directory => .ok (place ++ [name])
    | some (.file _) => .error .notDirectory
    | none => .error .notFound

/-- Goes through directories. -/
def walk (t : FileTree) (place : List String) : List String → Except FileError (List String)
  | [] => .ok place
  | name :: rest =>
    match t.enter place name with
    | .ok place => t.walk place rest
    | .error e => .error e

/-- Where the walk along a path starts: at the top or at the working directory. -/
def origin (path : String) : List String := if Path.isAbsolute path then ["/"] else []

/-- The directory that a path leads to before its last part, and the last part. Slashes at the end
of the path follow the last part and are no parts of their own. -/
def locate (path : String) (t : FileTree) : Except FileError (List String × String) :=
  if path.toList.contains '\x00' then .error .nullInName
  else if path.isEmpty then .error .notFound
  else if pathLimit < path.utf8ByteSize then .error .nameTooLong
  else
    let parts := Path.parts (Path.dropSlashes path)
    match t.walk (origin path) parts.dropLast with
    | .ok place => .ok (place, parts.getLast?.getD "")
    | .error e => .error e

/-- Whether a part of a path names something in the directory where it stands. -/
def isName (part : String) : Bool := !Path.isIdle part && part != ".."

/-- The octets of a file. A slash may follow the name of a directory only. -/
def readBytes (path : String) (t : FileTree) : Except FileError (List UInt8) :=
  match t.locate path with
  | .error e => .error e
  | .ok (place, name) =>
    if !isName name then .error .isDirectory
    else if nameLimit < name.utf8ByteSize then .error .nameTooLong
    else
      match t.node? (place ++ [name]) with
      | some (.file bytes) => if Path.endsInSlash path then .error .notDirectory else .ok bytes
      | some .directory => .error .isDirectory
      | none => .error .notFound

/-- The text of a file. -/
def read (path : String) (t : FileTree) : Except FileError String :=
  match t.readBytes path with
  | .error e => .error e
  | .ok bytes =>
    match Text.Utf8.decode? bytes with
    | some text => .ok (String.ofList text)
    | none => .error .notText

/-- Puts something at a place, instead of what stood there. -/
def put (place : List String) (node : FileNode) (t : FileTree) : FileTree :=
  { entries := t.entries.filter (·.1 ≠ place) ++ [(place, node)] }

/-- Writes octets into a file, instead of those it held. A path that ends in a slash can only mean a
directory, whether there is one or not. -/
def write (path : String) (bytes : List UInt8) (t : FileTree) : Except FileError FileTree :=
  match t.locate path with
  | .error e => .error e
  | .ok (place, name) =>
    if !isName name || Path.endsInSlash path then .error .isDirectory
    else if nameLimit < name.utf8ByteSize then .error .nameTooLong
    else
      match t.node? (place ++ [name]) with
      | some .directory => .error .isDirectory
      | some (.file _) | none => .ok (t.put (place ++ [name]) (.file bytes))

/-- Makes a directory in one that is there. -/
def makeDirectory (path : String) (t : FileTree) : Except FileError FileTree :=
  match t.locate path with
  | .error e => .error e
  | .ok (place, name) =>
    if !isName name then .error .alreadyExists
    else if nameLimit < name.utf8ByteSize then .error .nameTooLong
    else
      match t.node? (place ++ [name]) with
      | some _ => .error .alreadyExists
      | none => .ok (t.put (place ++ [name]) .directory)

/-- Whether a path leads to a directory. -/
def isDirectory (path : String) (t : FileTree) : Bool :=
  match t.locate path with
  | .error _ => false
  | .ok (place, name) => (t.enter place name).toBool

/-- Makes a directory, unless there is one already. -/
def ensureDirectory (path : String) (t : FileTree) : Except FileError FileTree :=
  match t.makeDirectory path with
  | .ok t => .ok t
  | .error e => if t.isDirectory path then .ok t else .error e

/-- Makes a directory and those on the way to it, at most `depth` of them. Gives the tree as far as
it came, and what stopped it. -/
def makeDirectoriesUpTo : Nat → String → FileTree → Option FileError × FileTree
  | 0, _, t => (none, t)
  | depth + 1, path, t =>
    if path.isEmpty then (none, t)
    else
      match t.makeDirectory path with
      | .ok t => (none, t)
      | .error .notFound =>
        match (Path.parent? path).map (fun parent => makeDirectoriesUpTo depth parent t) with
        | some (none, t) =>
          match t.ensureDirectory path with
          | .ok t => (none, t)
          | .error e => (some e, t)
        | some (some e, t) => (some e, t)
        | none => (some .notFound, t)
      | .error e => if t.isDirectory path then (none, t) else (some e, t)

/-- Makes a directory and those on the way to it. -/
def makeDirectories (path : String) (t : FileTree) : Option FileError × FileTree :=
  makeDirectoriesUpTo (path.length + 1) path t

/-- Whether a place lies below the working directory. -/
def isBelow (place : List String) : Bool := place.head? != some ".." && place.head? != some "/"

/-- The places below the working directory as paths, in the order of these; a slash follows a
directory. -/
def list (t : FileTree) : List String :=
  ((t.entries.filter fun entry => isBelow entry.1).map fun (place, node) =>
    match node with
    | .file _ => "/".intercalate place
    | .directory => "/".intercalate place ++ "/").mergeSort (fun a b => decide (a ≤ b))

end FileTree

end BringUp
