import Lindenmayer.Drawing.Draw
import Lindenmayer.Text.Bytes

/-!
Requests and responses. A failure is answered by who it is for: what the asker can mend is said,
anything else is not.
-/
namespace Lindenmayer

/-- A request: its method and path, the query if one is given apart, and its body. -/
structure Request where
  method : String
  path : Text
  query : Option (List (Text × Text))
  body : Option Text

/-- What a response carries. -/
inductive Content where
  | json (v : Value)
  | image (i : Image Float)
  | text (s : Text)
  | none

/-- A response. -/
structure Response where
  status : Nat
  mediaType : Option String := none
  cache : Option String := none
  content : Content

namespace Response

/-- An answer without content. -/
def bare (status : Nat) : Response := { status, content := .none }

/-- An answer in JSON. One that cannot be written is a fault of this program. -/
def json (status : Nat) (cache : Option String) (v : Value) : Response :=
  if v.encodable then { status, mediaType := some "application/json", cache, content := .json v }
  else bare 500

/-- An answer in JSON to a request that was granted. -/
def granted (v : Value) : Response := json 200 none v

/-- The media type of an image. -/
def imageType : Format → String
  | .png => "image/png"
  | .svg => "image/svg+xml"

/-- The answer to a failure. -/
def ofFailure (f : Failure) : Response :=
  match f.category with
  | .rejected => json 400 none (.record [("error", .string f.message)])
  | .tooLarge => json 413 none (.record [("error", .string f.message)])
  | .notFound => json 404 none (.record [("detail", .string f.message)])
  | _ => bare 500

/-- The answer that a result is, or that its failure is. -/
def ofResult (result : Except Failure Response) : Response :=
  match result with
  | .ok response => response
  | .error failure => ofFailure failure

/-- There is nothing at the path. -/
def notFound : Response := json 404 none (.record [("detail", .string "Not Found")])

/-- There is something at the path, but not for the method. -/
def wrongMethod : Response := json 405 none (.record [("detail", .string "Method Not Allowed")])

/-- The body could not be looked at. -/
def unreadable : Response :=
  json 400 none (.record [("detail", .string "There was an error parsing the body")])

/-- The request has not the shape that its path needs. -/
def misshapen : Response := bare 422

end Response

end Lindenmayer
