import Lindenmayer.Text.Bytes

/-!
Paths as texts: parts between slashes, the extension of the last part, and the names that parts are
kept under (`Path.stored`).
-/
namespace Lindenmayer.Path

/-- Whether a code point is a slash. -/
def isSlash (c : CodePoint) : Bool := c.val == 47

/-- The parts of a path between its slashes, with the empty ones. -/
def parts : Text → List Text
  | [] => [[]]
  | c :: rest =>
    if isSlash c then [] :: parts rest
    else
      match parts rest with
      | [] => [[c]]
      | first :: more => (c :: first) :: more

/-- What is behind the last slash. -/
def baseName (path : Text) : Text := (path.reverse.takeWhile fun c => !isSlash c).reverse

/-- The extension of a path without its point: what is behind the last point of the last part, if
    more than points stands before it there. -/
def extension (path : Text) : Text :=
  let base := baseName path
  let behind := (base.reverse.takeWhile fun c => c.val != 46).reverse
  let before := base.take (base.length - behind.length)
  if before.any fun c => c.val != 46 then behind else []

/-- Whether a part is the directory itself. -/
def isHere (part : Text) : Bool := part.isEmpty || part.isString "."

/-- Whether a part is the directory above. -/
def isAbove (part : Text) : Bool := part.isString ".."

/-- Whether a path starts at the root. -/
def isAbsolute : Text → Bool
  | [] => false
  | c :: _ => isSlash c

/-- Whether a path ends in a slash. -/
def endsInSlash (path : Text) : Bool := (path.getLast?.map isSlash).getD false

/-- A path without the slashes at its end. -/
def withoutEnd (path : Text) : Text := (path.reverse.dropWhile isSlash).reverse

/-- The places from the root on that a path names when parts above are taken back one by one,
    whatever there is on the way. -/
def normalize (here : List Text) (path : Text) : List Text :=
  (parts path).foldl (fun place part =>
    if isHere part then place
    else if isAbove part then place.dropLast
    else place ++ [part]) (if isAbsolute path then [] else here)

/-- The path from the root on to a place. -/
def ofPlace (place : List Text) : Text :=
  Text.ofChar '/' :: List.intercalate [Text.ofChar '/'] place

/-- A path put behind a directory, with a slash between unless there is one. -/
def join (directory name : Text) : Text :=
  if directory.isEmpty || endsInSlash directory then directory ++ name
  else directory ++ Text.ofChar '/' :: name

/-! ### Names as they are kept -/

/-- The code point that the stray bytes at the head of a name encode together, none if they encode
    nothing. -/
def encodedHead? (name : Text) : Option CodePoint :=
  let stray := (name.takeWhile Text.isStrayByte).map fun c => c.val - 0xDC00
  [2, 3, 4].findSome? fun width =>
    match Text.ofBytes (stray.take width) with
    | [c] => if Text.codePointBytes c = stray.take width then some c else none
    | _ => none

/-- A name from behind so many code points on, with stray bytes that encode a code point together made
    that code point. -/
def storedBehind : (skip : Nat) → Text → Text
  | _, [] => []
  | skip + 1, _ :: rest => storedBehind skip rest
  | 0, c :: rest =>
    match encodedHead? (c :: rest) with
    | some whole => whole :: storedBehind ((Text.codePointBytes whole).length - 1) rest
    | none => c :: storedBehind 0 rest

/-- The name that a part of a path is kept under: two parts are one name if their bytes are the same. -/
def stored (part : Text) : Text := storedBehind 0 part

end Lindenmayer.Path
