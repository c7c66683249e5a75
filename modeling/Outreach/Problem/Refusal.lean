import Outreach.Delivery.Status
import Outreach.Problem.Detail
import Outreach.Schema.Issue

/-!
Refusals: why a request is not carried out. Each has a status, a code and a wording, and some list
what is wrong with the request; together they make the problem document that answers it.
-/

namespace Outreach

/-- What requests ask for by number. -/
inductive Resource where
  | customer | order | segment | campaign | message
deriving DecidableEq, Repr

def Resource.name : Resource → String
  | customer => "Customer"
  | order => "Order"
  | segment => "Segment"
  | campaign => "Campaign"
  | message => "Communication log"

inductive Refusal where
  | missing (resource : Resource) (id : Int)
  | emailTaken (email : String)
  | orderNumberTaken (number : String)
  | segmentInUse (segment : Int)
  | refusedMove (move : RefusedMove)
  | alreadySent (campaign : Int)
  | unsortable (order : String) (allowed : List String)
  | importOfNoList
  /-- An item of an import does not fit; it is named by its e-mail address. -/
  | importOfMisfit (email : String)
  | importOfDuplicates
  | anonymous
  | invalidCredentials
  | signInNotConfigured
  | invalidRequest (issues : List Issue)
  | rule (e : RuleError)
  | unreadableBody
  | unknownPath
  | wrongMethod (allowed : String)
deriving Repr

namespace Refusal

def status : Refusal → Nat
  | missing .. | unknownPath => 404
  | emailTaken _ | orderNumberTaken _ | segmentInUse _ | refusedMove _ => 409
  | alreadySent _ | unsortable .. | importOfNoList | importOfMisfit _ | importOfDuplicates
  | unreadableBody => 400
  | anonymous | invalidCredentials => 401
  | signInNotConfigured => 502
  | invalidRequest _ | rule _ => 422
  | wrongMethod _ => 405

def code : Refusal → ErrorCode
  | missing .. | unknownPath => .notFound
  | emailTaken _ | orderNumberTaken _ | segmentInUse _ | refusedMove _ => .conflict
  | alreadySent _ | unsortable .. | importOfNoList | importOfMisfit _ | importOfDuplicates =>
      .businessRuleViolation
  | anonymous | invalidCredentials => .unauthorized
  | signInNotConfigured => .googleOauthError
  | invalidRequest _ | unreadableBody => .validationError
  | rule e => .ofRuleError e.kind
  | wrongMethod _ => .internalError

def detail : Refusal → String
  | missing resource id => Problem.notFoundDetail resource.name (String.ofList (Text.ofInt id))
  | emailTaken email => "Customer with email " ++ email ++ " already exists"
  | orderNumberTaken number => "Order number " ++ number ++ " already exists"
  | segmentInUse segment =>
      "Segment " ++ String.ofList (Text.ofInt segment) ++ " is used by existing campaigns"
  | refusedMove move => move.message
  | alreadySent campaign =>
      "Campaign " ++ String.ofList (Text.ofInt campaign) ++ " has already been sent"
  | unsortable order allowed =>
      "Cannot sort by '" ++ order ++ "'. Allowed: " ++ ", ".intercalate allowed
  | importOfNoList => "Request body must be an array of customers"
  | importOfMisfit email => "Invalid customer data for " ++ email
  | importOfDuplicates => "Batch contains duplicate email addresses"
  | anonymous => Problem.unauthenticatedDetail
  | invalidCredentials => "Could not validate credentials"
  | signInNotConfigured => Problem.externalServiceDetail "Google OAuth" "not configured"
  | invalidRequest _ => "Request validation failed"
  | rule e => e.fullMessage
  | unreadableBody => "There was an error parsing the body"
  | unknownPath => "Not Found"
  | wrongMethod _ => "Method Not Allowed"

/-- One thing that is wrong with a request. -/
def flaw (field message type : String) : Value :=
  .record [("field", .text field), ("message", .text message), ("type", .text type)]

def lowerCase (text : String) : String := String.ofList (text.toList.map Char.toLower)

/-- What is wrong with the request, where that is told. -/
def errors : Refusal → Option Value
  | invalidRequest issues =>
      some (.list (issues.map fun issue =>
        flaw issue.placeText issue.cause.message issue.cause.code))
  | rule e =>
      match nonempty? e.path with
      | some path =>
          some (.list [flaw path e.message (lowerCase (ErrorCode.ofRuleError e.kind).name)])
      | none => none
  | _ => none

/-- The problem document for a refusal of a request to an address. -/
def problem (now : Moment) (traceId occurrence : String) (refusal : Refusal) : Problem :=
  Problem.make now traceId refusal.code refusal.status refusal.detail none (some occurrence)
    refusal.errors

end Refusal

end Outreach
