import Scaffold.Generation.Generator

/-!
# Responses

The answer to a request, for whatever serves it: a package with its headers,
or the error as a JSON object.
-/

namespace Scaffold

/-- A response, free of any transport. -/
structure Response where
  status : Nat
  headers : List (String × String)
  body : List UInt8
deriving DecidableEq, Repr

namespace Response

/-- Whether two names of headers are the same but for the case of ASCII
letters. -/
def sameName (first second : String) : Bool :=
  first.toList.map Char.toLower == second.toList.map Char.toLower

/-- The value of the first header with the given name, in any case. -/
def header? (response : Response) (name : String) : Option String :=
  (response.headers.find? fun (other, _) => sameName other name).map Prod.snd

/-- The response with a package. -/
def success (package : Package) : Response where
  status := 200
  headers :=
    [("Content-Type", Package.contentType),
      ("Content-Disposition", package.contentDisposition),
      ("ETag", "\"" ++ package.digest ++ "\"")]
  body := package.bytes

/-- The response to a failure. -/
def failure (error : GenerationError) : Response where
  status := error.status
  headers := [("Content-Type", "application/json")]
  body := Text.toBytes (Json.write (.obj [("error", .str error.message)]))

end Response

/-- Answers the body of a request. -/
def Generator.handle (generator : Generator) (body : List UInt8) : Response :=
  match generator.generateFromBody body with
  | .ok package => .success package
  | .error error => .failure error

end Scaffold
