import Lindenmayer.Storage.Path
import Lindenmayer.Text.Bytes

/-!
Addresses: the path that a request is looked up by, and its query. `Address.ofText` reads one as it is
written, with the parts for the directory itself and the one above taken out and escapes decoded on
the way here and there; `Address.toggled` is the one to try where a path leads nowhere.
-/
namespace Lindenmayer

/-- A path as it is looked up, and a query as it is written. -/
structure Address where
  path : Text
  query : Text
deriving DecidableEq, Repr

namespace Address

/-- A text up to a character, and what is behind it. -/
def cutAt (mark : Char) (s : Text) : Text × Text :=
  let before := s.takeWhile (· != Text.ofChar mark)
  (before, s.drop (before.length + 1))

/-- A path with the parts that stand for the directory itself or the one above taken out. -/
def plainPath (path : Text) : Text :=
  let parts := (Path.parts path).foldl (fun kept part =>
    if part.isString "." then kept
    else if Path.isAbove part then (if kept == [[]] then kept else kept.dropLast)
    else kept ++ [part]) ([] : List Text)
  List.intercalate [Text.ofChar '/'] parts

/-- A path decoded twice over. -/
def decodedPath (path : Text) : Text := Text.unescaped (Text.unescaped (plainPath path))

/-- The address of a path and what is written behind it. A hash mark begins what is for the asker
    alone. -/
def ofText (s : Text) : Address :=
  let (path, query) := cutAt '?' (cutAt '#' s).1
  { path := decodedPath path, query }

/-- A path without the name of a host before it. -/
def withoutHost (s : Text) : Text :=
  match s with
  | a :: b :: rest =>
    if Path.isSlash a && Path.isSlash b
      then rest.dropWhile fun c => !Path.isSlash c && c != Text.ofChar '?' && c != Text.ofChar '#'
      else s
  | _ => s

/-- An address as an asker writes it: one slash stands before the path, however many are written. -/
def ofAsker (s : Text) : Address :=
  ofText (Text.ofChar '/' :: (withoutHost s).dropWhile Path.isSlash)

/-- A path with the slashes at its end taken away, or with one put there. -/
def toggledPath (path : Text) : Text :=
  if Path.endsInSlash path then Path.withoutEnd path else path ++ [Text.ofChar '/']

/-- A path as it is written: slashes and points stand for themselves. -/
def writtenPath (path : Text) : Text := Text.escaped (fun b => b == 47 || b == 46) path

/-- The address of the path with its last slashes changed, which is written anew and read again. -/
def toggled (a : Address) : Address :=
  ofText (writtenPath (toggledPath a.path) ++
    if a.query.isEmpty then [] else Text.ofChar '?' :: a.query)

/-! ### Queries -/

/-- The names and values of a query. -/
def parameters (query : Text) : List (Text × Text) :=
  let decode (s : Text) : Text :=
    Text.unescaped (s.map fun c => if c == Text.ofChar '+' then Text.ofChar ' ' else c)
  let pairs := (query.splitBy fun a b => a != Text.ofChar '&' && b != Text.ofChar '&').filter
    fun part => part != [Text.ofChar '&']
  pairs.map fun pair =>
    let (name, value) := cutAt '=' pair
    (decode name, decode value)

/-- The query that says names and values. -/
def queryOf (parameters : List (Text × Text)) : Text :=
  let escaped := Text.escaped fun _ => false
  List.intercalate [Text.ofChar '&'] (parameters.map fun p =>
    escaped p.1 ++ Text.ofChar '=' :: escaped p.2)

end Address

end Lindenmayer
