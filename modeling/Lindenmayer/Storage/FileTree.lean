import Lindenmayer.Storage.Path
import Lindenmayer.Text.Bytes
import Lindenmayer.Failure

/-!
Directories and files. A file is written through its path: the directory above it, as the path is
normalised, is made if it is missing, and then the path is followed part by part through directories
that have to be there. Places are the same if the bytes of their names are (`kept`).
-/
namespace Lindenmayer

/-- Directories and files by their places from the root on, and the place that relative paths start
    from. -/
structure FileTree (α : Type) where
  here : List Text
  directories : List (List Text)
  files : List (List Text × α)
deriving Repr, Inhabited

namespace FileTree

variable {α : Type}

/-- The longest name, in bytes. -/
def longestName : Nat := 255

/-- The longest path, in bytes. -/
def longestPath : Nat := 4095

/-- Checks whether a text can be given to the file system as a path. -/
def checkPath (path : Text) : Except Failure Unit :=
  match Text.badRun? Text.isLoneInPath path with
  | some (run, first) => .error (.notEncodable run first)
  | none =>
    if path.any (·.val == 0) then .error .nullCharacter
    else if path.isEmpty then .error .noSuchFile
    else if longestPath < Text.pathLength path then .error .pathTooLong
    else .ok ()

/-- A place by the names that its parts are kept under. -/
def kept (place : List Text) : List Text := place.map Path.stored

/-- A tree without files. -/
def bare (here : List Text) : FileTree α :=
  { here := kept here
    directories := (List.range (here.length + 1)).map (kept here).take
    files := [] }

/-- The file at a place. -/
def fileAt? (t : FileTree α) (place : List Text) : Option α :=
  (t.files.find? (·.1 == kept place)).map Prod.snd

/-- Whether there is a directory at a place. -/
def hasDirectory (t : FileTree α) (place : List Text) : Bool := t.directories.contains (kept place)

/-- Where a path leads, followed part by part. Every part but the last has to be a directory, and none
    may be too long. -/
def follow (t : FileTree α) : (place : List Text) → List Text → Except Failure (List Text)
  | place, [] => .ok place
  | place, part :: rest =>
    let next :=
      if Path.isHere part then place
      else if Path.isAbove part then place.dropLast
      else place ++ [part]
    if longestName < Text.pathLength part then .error .pathTooLong
    else if rest.isEmpty then .ok next
    else if t.hasDirectory next then t.follow next rest
    else if (t.fileAt? next).isSome then .error .notDirectory
    else .error .noSuchFile

/-- Where a path leads. -/
def resolve (t : FileTree α) (path : Text) : Except Failure (List Text) := do
  checkPath path
  let start := if Path.isAbsolute path then [] else t.here
  t.follow start (Path.parts (Path.withoutEnd path))

/-- Makes the directory at a place, if there is none. -/
def makeDirectory (t : FileTree α) (place : List Text) : Except Failure (FileTree α) := do
  if t.hasDirectory place then return t
  else
    checkPath (Path.ofPlace place)
    if longestName < Text.pathLength (place.getLastD []) then .error .pathTooLong
    else if (t.fileAt? place).isSome then .error .fileInTheWay
    else if (t.fileAt? place.dropLast).isSome then .error .notDirectory
    else return { t with directories := t.directories ++ [kept place] }

/-- Makes the directories at places, one after the other. A failure comes with those that were made
    before. -/
def makeAll (t : FileTree α) : List (List Text) → Except (Failure × FileTree α) (FileTree α)
  | [] => .ok t
  | place :: rest =>
    match t.makeDirectory place with
    | .ok made => made.makeAll rest
    | .error failure => .error (failure, t)

/-- Makes the directory at a place and those above it. -/
def makeDirectories (t : FileTree α) (place : List Text) :
    Except (Failure × FileTree α) (FileTree α) :=
  t.makeAll ((List.range (place.length + 1)).map place.take)

/-- Puts a file at a place, in the stead of one that is there. -/
def put (t : FileTree α) (place : List Text) (content : α) : FileTree α :=
  { t with files := t.files.filter (·.1 != kept place) ++ [(kept place, content)] }

/-- Makes the directory above a path. -/
def makeParent (t : FileTree α) (path : Text) : Except (Failure × FileTree α) (FileTree α) :=
  t.makeDirectories (Path.normalize t.here path).dropLast

/-- Writes into the file that a path leads to. A path with a slash at its end names a directory,
    whether it is there or not. -/
def writeAt (t : FileTree α) (path : Text) (content : α) : Except Failure (FileTree α) := do
  let place ← t.resolve path
  if t.hasDirectory place || Path.endsInSlash path then .error .isDirectory
  else return t.put place content

/-- Writes a file, making the directory above it. A failure comes with the tree as it is left. -/
def write (t : FileTree α) (path : Text) (content : α) :
    Except (Failure × FileTree α) (FileTree α) := do
  let made ← t.makeParent path
  match made.writeAt path content with
  | .error failure => .error (failure, made)
  | .ok written => .ok written

/-- What there is where a path leads: a file, a directory, or nothing. -/
inductive Found (α : Type) where
  | file (content : α)
  | directory
  | nothing

/-- What there is where a path leads. -/
def find (t : FileTree α) (path : Text) : Found α :=
  match t.resolve path with
  | .error _ => .nothing
  | .ok place =>
    match t.fileAt? place with
    | some content => .file content
    | none => if t.hasDirectory place then .directory else .nothing

/-- The path of a place below the current one. -/
def relative? (t : FileTree α) (place : List Text) : Option Text :=
  if t.here.isPrefixOf place ∧ t.here.length < place.length then
    some (List.intercalate [Text.ofChar '/'] (place.drop t.here.length))
  else none

/-- The files below the current place by their relative paths, in the order of their code points. -/
def listing (t : FileTree α) : List (Text × α) :=
  let found := t.files.filterMap fun (place, content) => (t.relative? place).map (·, content)
  found.mergeSort fun a b => !decide (b.1 < a.1)

end FileTree

end Lindenmayer
