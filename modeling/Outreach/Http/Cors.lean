import Outreach.Http.Message

/-!
Sharing with other origins: one origin may read responses. A browser asks beforehand whether a
request would be let through, and gets an answer that never reaches the application.
-/

namespace Outreach.Http.Cors

/-- The methods that another origin may use. -/
def methods : List String := ["DELETE", "GET", "HEAD", "OPTIONS", "PATCH", "POST", "PUT"]

/-- The seconds for which a browser may keep an answer. -/
def keptFor : String := "600"

/-- Whether a request only asks what would be let through. -/
def isInquiry (request : Request) : Bool :=
  request.method = "OPTIONS" && (request.header? "origin").isSome &&
    (request.header? "access-control-request-method").isSome

/-- What an inquiry asks for and would not get. -/
def objections (allowed origin method : String) : List String :=
  (if origin = allowed then [] else ["origin"]) ++
  (if methods.contains method then [] else ["method"])

/-- The answer to an inquiry. -/
def answer (allowed : String) (request : Request) : Response :=
  let origin := (request.header? "origin").getD ""
  let method := (request.header? "access-control-request-method").getD ""
  let wanted := request.header? "access-control-request-headers"
  let objections := objections allowed origin method
  { status := if objections = [] then 200 else 400
    headers := [
      ("vary", "Origin"), ("access-control-allow-methods", ", ".intercalate methods),
      ("access-control-max-age", keptFor), ("access-control-allow-credentials", "true")] ++
      (if origin = allowed then [("access-control-allow-origin", origin)] else []) ++
      (wanted.map fun names => ("access-control-allow-headers", names)).toList ++
      [("content-type", "text/plain; charset=utf-8")]
    content := .text (
      if objections = [] then "OK" else "Disallowed CORS " ++ ", ".intercalate objections) }

/-- What a response to another origin says besides. -/
def permission (allowed : String) (request : Request) : Headers :=
  match request.header? "origin" with
  | none => []
  | some origin =>
      ("access-control-allow-credentials", "true") ::
        (if origin = allowed then [("access-control-allow-origin", origin), ("vary", "Origin")]
        else [])

end Outreach.Http.Cors
