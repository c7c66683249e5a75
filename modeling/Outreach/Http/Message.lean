import Outreach.Form.Encoding
import Outreach.Value.Whole

/-!
Requests and responses. Names of headers are in lower case; a header may occur several times in a
response.
-/

namespace Outreach.Http

/-- Headers with their values. -/
abbrev Headers := List (String × String)

structure Request where
  method : String
  /-- The path, decoded. -/
  path : String
  /-- The query as it was sent, without its question mark. -/
  query : String := ""
  headers : Headers := []
  body : String := ""
deriving Repr

namespace Request

def header? (request : Request) (name : String) : Option String := request.headers.lookup name

/-- A header that says something. -/
def filledHeader? (request : Request) (name : String) : Option String :=
  (request.header? name).filter fun text => !text.isEmpty

/-- The values that the query gives. -/
def parameters (request : Request) : List (String × String) :=
  (Form.decode request.query.toList).map fun (name, value) =>
    (String.ofList name, String.ofList value)

/-- The value that the query gives under a name; of several the last. -/
def parameter? (request : Request) (name : String) : Option String :=
  request.parameters.reverse.lookup name

end Request

/-- What a response holds. -/
inductive Content where
  | nothing
  | text (text : String)
  | json (value : Value)
deriving Repr

structure Response where
  status : Nat
  headers : Headers := []
  content : Content := .nothing
deriving Repr

namespace Response

def withHeaders (headers : Headers) (response : Response) : Response :=
  { response with headers := response.headers ++ headers }

/-- Whether what a response holds can be encoded. -/
def isSendable (response : Response) : Bool :=
  match response.content with
  | .json value => value.isWhole
  | _ => true

/-- The values of a header. -/
def header (response : Response) (name : String) : List String :=
  (response.headers.filter fun entry => entry.1 = name).map (·.2)

/-- The kind of content that plain JSON has. -/
def jsonKind : String := "application/json"

def problemKind : String := "application/problem+json"

def json (status : Nat) (value : Value) : Response where
  status
  headers := [("content-type", jsonKind)]
  content := .json value

/-- A success that has nothing to say. -/
def noContent : Response where
  status := 204
  headers := [("content-type", jsonKind)]

end Response

end Outreach.Http
