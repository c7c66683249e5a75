import Outreach.Problem.Detail
import Outreach.Schema.Dump
import Outreach.Schema.Number

/-!
Drafts of problems: a kind of failure with particulars that are given in order or by name and may
be values of any kind. A draft makes a problem if its particulars are those that the kind asks for
and they fit the document.
-/

namespace Outreach.Problem

/-- A particular of a failure. -/
inductive Particular where
  | code (code : ErrorCode)
  | value (value : Value)
deriving Repr

namespace Particular

def nothing : Particular := value .null

def ofText (text : String) : Particular := value (.text text)

/-- The plain text of a particular. -/
def display : Particular → String
  | code c => "ErrorCode." ++ c.name
  | value v => v.display

/-- A particular as data, where a code counts as its text. -/
def toValue : Particular → Value
  | code c => .text c.code
  | value v => v

end Particular

/-- The kinds of failure. -/
inductive Kind where
  | general | notFound | validation | unauthorized | conflict | businessRule | externalService
deriving DecidableEq, Repr

/-- The particulars that a kind asks for, in order, with what stands for those left out. -/
def Kind.parameters : Kind → List (String × Option Particular)
  | general => [("status_code", none), ("code", none), ("detail", none),
      ("title", some .nothing), ("instance", some .nothing), ("errors", some .nothing),
      ("headers", some .nothing)]
  | notFound => [("resource", none), ("resource_id", none), ("instance", some .nothing)]
  | validation => [("detail", none), ("errors", some .nothing)]
  | unauthorized => [("detail", some (.ofText unauthenticatedDetail))]
  | conflict | businessRule => [("detail", none)]
  | externalService =>
      [("service", none), ("detail", none), ("code", some (.code .externalServiceError))]

/-- Particulars by the names of parameters. There are none if too many are given, one is given
twice, or one that is needed is missing. -/
def assign : List (String × Option Particular) → (ordered : List Particular) →
    (named : List (String × Particular)) → Option (List (String × Particular))
  | [], ordered, named => if ordered.isEmpty && named.isEmpty then some [] else none
  | (name, default) :: rest, ordered, named =>
      match ordered, named.lookup name with
      | given :: more, none => (assign rest more named).map ((name, given) :: ·)
      | _ :: _, some _ => none
      | [], found => do
          let given ← found.or default
          let others := named.filter fun entry => entry.1 ≠ name
          (assign rest [] others).map ((name, given) :: ·)

/-- What a kind of failure and its particulars come to. -/
structure Draft where
  status : Particular
  code : Particular
  detail : Particular
  title : Particular := .nothing
  occurrence : Particular := .nothing
  errors : Particular := .nothing
deriving Repr

def Kind.draft (kind : Kind) (given : List (String × Particular)) : Draft :=
  let get (name : String) : Particular := (given.lookup name).getD .nothing
  let known (status : Int) (code : ErrorCode) (detail : Particular) : Draft :=
    { status := .value (.int status), code := .code code, detail }
  match kind with
  | general =>
      { status := get "status_code", code := get "code", detail := get "detail"
        title := get "title", occurrence := get "instance", errors := get "errors" }
  | notFound =>
      { known 404 .notFound (.ofText
          (notFoundDetail (get "resource").display (get "resource_id").display)) with
        occurrence := get "instance" }
  | validation => { known 422 .validationError (get "detail") with errors := get "errors" }
  | unauthorized => known 401 .unauthorized (get "detail")
  | conflict => known 409 .conflict (get "detail")
  | businessRule => known 400 .businessRuleViolation (get "detail")
  | externalService =>
      { status := .value (.int 502), code := get "code"
        detail := .ofText
          (externalServiceDetail (get "service").display (get "detail").display) }

/-- The phrases that go with the statuses of responses. -/
def phrases : List (Int × String) := [
  (100, "Continue"), (101, "Switching Protocols"), (102, "Processing"), (103, "Early Hints"),
  (200, "OK"), (201, "Created"), (202, "Accepted"), (203, "Non-Authoritative Information"),
  (204, "No Content"), (205, "Reset Content"), (206, "Partial Content"), (207, "Multi-Status"),
  (208, "Already Reported"), (226, "IM Used"), (300, "Multiple Choices"),
  (301, "Moved Permanently"), (302, "Found"), (303, "See Other"), (304, "Not Modified"),
  (305, "Use Proxy"), (307, "Temporary Redirect"), (308, "Permanent Redirect"),
  (400, "Bad Request"), (401, "Unauthorized"), (402, "Payment Required"), (403, "Forbidden"),
  (404, "Not Found"), (405, "Method Not Allowed"), (406, "Not Acceptable"),
  (407, "Proxy Authentication Required"), (408, "Request Timeout"), (409, "Conflict"),
  (410, "Gone"), (411, "Length Required"), (412, "Precondition Failed"),
  (413, "Request Entity Too Large"), (414, "Request-URI Too Long"),
  (415, "Unsupported Media Type"), (416, "Requested Range Not Satisfiable"),
  (417, "Expectation Failed"), (418, "I'm a Teapot"), (421, "Misdirected Request"),
  (422, "Unprocessable Entity"), (423, "Locked"), (424, "Failed Dependency"), (425, "Too Early"),
  (426, "Upgrade Required"), (428, "Precondition Required"), (429, "Too Many Requests"),
  (431, "Request Header Fields Too Large"), (451, "Unavailable For Legal Reasons"),
  (500, "Internal Server Error"), (501, "Not Implemented"), (502, "Bad Gateway"),
  (503, "Service Unavailable"), (504, "Gateway Timeout"), (505, "HTTP Version Not Supported"),
  (506, "Variant Also Negotiates"), (507, "Insufficient Storage"), (508, "Loop Detected"),
  (510, "Not Extended"), (511, "Network Authentication Required")]

/-- The wording that goes with a status, whatever kind of number that is. -/
def wording? (wordings : List (Int × String)) (status : Value) : Option String :=
  (wordings.find? fun entry => Value.isSame (.int entry.1) status).map (·.2)

/-- Why a draft makes no problem. -/
inductive Misfit where
  /-- The particulars are not those that the kind asks for. -/
  | particulars
  /-- A status without a wording of its own has to be looked up, and cannot be. -/
  | status
  /-- There is no detail, and the status has no phrase to stand for it. -/
  | wordless
  /-- What is given as the code is none. -/
  | code
  | document (issues : List Issue)
deriving Repr

/-- The title of a draft; an empty one is none. -/
def Draft.heading (draft : Draft) : Except Misfit Value :=
  let title := draft.title.toValue
  let status := draft.status.toValue
  if !title.isEmpty then .ok title
  else if !status.isHashable then .error .status
  else .ok (.text ((wording? titles status).getD (titleOf 0)))

/-- The detail of a draft, or the phrase of its status. -/
def Draft.explanation (draft : Draft) : Except Misfit Value :=
  match draft.detail.toValue with
  | .null =>
      match wording? phrases draft.status.toValue with
      | some phrase => .ok (.text phrase)
      | none => .error .wordless
  | detail => .ok detail

open Schema in
/-- Checks the members of a document that a draft gives. -/
def Draft.check (draft : Draft) (now : Moment) (traceId : String) (code : ErrorCode)
    (title detail : Value) : Checked Problem :=
  let build (title : String) (status : Int) (detail : String) (occurrence : Option String)
      (errors : Option (List (List (Value × Value)))) : Problem :=
    { code, title, status, detail, occurrence, traceId
      timestamp := timestampOf now
      errors := errors.map fun items => .list (items.map fun entries =>
        (Value.dict entries).spelledOut) }
  build <$> (text title).under "title"
    <*> (integer draft.status.toValue).under "status"
    <*> (text detail).under "detail"
    <*> (nullable text draft.occurrence.toValue).under "instance"
    <*> (nullable (list mapping) draft.errors.toValue).under "errors"

/-- The problem that a failure and its particulars make. -/
def draw (now : Moment) (traceId : String) (kind : Kind) (ordered : List Particular)
    (named : List (String × Particular)) : Except Misfit Problem := do
  match assign kind.parameters ordered named with
  | none => .error .particulars
  | some given =>
      let draft := kind.draft given
      let title ← draft.heading
      let detail ← draft.explanation
      match draft.code with
      | .value _ => .error .code
      | .code code =>
          match draft.check now traceId code title detail with
          | .accepted problem => .ok problem
          | .rejected issues => .error (.document issues)

end Outreach.Problem
