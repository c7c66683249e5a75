import Outreach.Http.Message
import Outreach.Json.Reader
import Outreach.Schema.Checked
import Outreach.Store.Outcome

/-!
The content of a request. It is read as JSON if it is said to be, else it is a text. JSON that is
broken is refused at the place where it breaks.
-/

namespace Outreach.Api

/-- The kind of content that a header names, without its parameters. -/
def contentKind (header : String) : List Char × List Char :=
  let kind := (Text.trim (header.toList.takeWhile (· ≠ ';'))).map Char.toLower
  if kind.count '/' = 1 then Form.splitOnce '/' kind else ("text".toList, "plain".toList)

/-- Whether a request says of its content that it is JSON. -/
def isJsonContent (request : Http.Request) : Bool :=
  (request.header? "content-type").any fun header =>
    let (type, subtype) := contentKind header
    type = "application".toList && (subtype = "json".toList || "+json".toList.isSuffixOf subtype)

/-- Reads JSON. A byte order mark in front of it does not count. -/
def jsonContent (text : String) : Except Refusal Value :=
  let text := match text.toList with
    | '\ufeff' :: rest => rest
    | text => text
  match Json.read text with
  | .ok value => .ok value
  | .error (.invalid place) =>
      .error (.invalidRequest [⟨["body", String.ofList (Text.ofNat place)], .brokenJson⟩])
  | .error .tooManyDigits | .error .tooDeep => .error .unreadableBody

/-- The content of a request, if it has any. -/
def contentOf (request : Http.Request) : Except Refusal (Entry Value) :=
  if request.body.isEmpty then .ok .absent
  else if isJsonContent request then (jsonContent request.body).map .given
  else .ok (.given (.text request.body))

end Outreach.Api
