import Outreach.Calendar.Moment
import Outreach.Rule.Error
import Outreach.Value.Basic

/-!
Problem documents: what is answered when a request fails, with the codes by which programs tell
errors apart.
-/

namespace Outreach

inductive ErrorCode where
  | unauthorized | forbidden
  | validationError
  | notFound | conflict
  | businessRuleViolation
  | ruleEvaluationError | malformedRule | unknownField | typeMismatch | unsupportedOperator
  | externalServiceError | googleOauthError
  | internalError | serviceUnavailable
deriving DecidableEq, Repr

namespace ErrorCode

def all : List ErrorCode := [
  unauthorized, forbidden, validationError, notFound, conflict, businessRuleViolation,
  ruleEvaluationError, malformedRule, unknownField, typeMismatch, unsupportedOperator,
  externalServiceError, googleOauthError, internalError, serviceUnavailable]

theorem mem_all (code : ErrorCode) : code ∈ all := by cases code <;> decide

def name : ErrorCode → String
  | unauthorized => "UNAUTHORIZED"
  | forbidden => "FORBIDDEN"
  | validationError => "VALIDATION_ERROR"
  | notFound => "NOT_FOUND"
  | conflict => "CONFLICT"
  | businessRuleViolation => "BUSINESS_RULE_VIOLATION"
  | ruleEvaluationError => "RULE_EVALUATION_ERROR"
  | malformedRule => "MALFORMED_RULE"
  | unknownField => "UNKNOWN_FIELD"
  | typeMismatch => "TYPE_MISMATCH"
  | unsupportedOperator => "UNSUPPORTED_OPERATOR"
  | externalServiceError => "EXTERNAL_SERVICE_ERROR"
  | googleOauthError => "GOOGLE_OAUTH_ERROR"
  | internalError => "INTERNAL_ERROR"
  | serviceUnavailable => "SERVICE_UNAVAILABLE"

def code : ErrorCode → String
  | unauthorized => "AUTH_001"
  | forbidden => "AUTH_002"
  | validationError => "VAL_001"
  | notFound => "RES_001"
  | conflict => "RES_003"
  | businessRuleViolation => "BIZ_001"
  | ruleEvaluationError => "SEG_000"
  | malformedRule => RuleError.Kind.malformed.code
  | unknownField => RuleError.Kind.unknownField.code
  | typeMismatch => RuleError.Kind.typeMismatch.code
  | unsupportedOperator => RuleError.Kind.unsupportedOperator.code
  | externalServiceError => "EXT_001"
  | googleOauthError => "EXT_002"
  | internalError => "SRV_001"
  | serviceUnavailable => "SRV_002"

def ofName? (text : String) : Option ErrorCode := all.find? fun code => code.name = text

/-- The code of an error of the rule engine. -/
def ofRuleError : RuleError.Kind → ErrorCode
  | .malformed => malformedRule
  | .unknownField => unknownField
  | .typeMismatch => typeMismatch
  | .unsupportedOperator => unsupportedOperator

/-- The address that identifies the kind of a problem. -/
def problemType (code : ErrorCode) : String :=
  "https://api.xeno-crm.dev/problems/" ++
    String.ofList (code.code.toList.map fun c => if c = '_' then '-' else c.toLower)

end ErrorCode

/-! ### Documents -/

structure Problem where
  code : ErrorCode
  title : String
  status : Int
  detail : String
  /-- The address of the request that failed. -/
  occurrence : Option String
  timestamp : String
  traceId : String
  errors : Option Value
deriving Repr

namespace Problem

/-- The titles of the statuses that have one of their own. -/
def titles : List (Int × String) := [
  (400, "Bad Request"), (401, "Unauthorized"), (403, "Forbidden"), (404, "Not Found"),
  (409, "Conflict"), (422, "Validation Error"), (500, "Internal Server Error"),
  (502, "Bad Gateway"), (503, "Service Unavailable")]

def titleOf (status : Int) : String := (titles.lookup status).getD "Error"

/-- A moment of universal time, to the microsecond. -/
def timestampOf (now : Moment) : String :=
  String.ofList (
    Moment.dateText now.date ++ 'T' ::
      (Text.padded 2 now.time.hour ++ ':' :: Text.padded 2 now.time.minute ++ ':' ::
        Text.padded 2 now.time.second ++ '.' :: Text.padded 6 now.time.microsecond ++ ['Z']))

/-- A problem that occurs now. An empty title is none. -/
def make (now : Moment) (traceId : String) (code : ErrorCode) (status : Int) (detail : String)
    (title occurrence : Option String) (errors : Option Value) : Problem where
  code
  title := (title.filter fun t => !t.isEmpty).getD (titleOf status)
  status
  detail
  occurrence
  timestamp := timestampOf now
  traceId
  errors

def notFoundDetail (resource id : String) : String :=
  resource ++ " with ID " ++ id ++ " was not found"

def externalServiceDetail (service detail : String) : String :=
  service ++ " service error: " ++ detail

def unauthenticatedDetail : String := "Not authenticated"

def fields (p : Problem) : List (String × Option Value) := [
  ("type", some (.text p.code.problemType)), ("title", some (.text p.title)),
  ("status", some (.int p.status)), ("detail", some (.text p.detail)),
  ("instance", p.occurrence.map .text), ("code", some (.text p.code.code)),
  ("timestamp", some (.text p.timestamp)), ("trace_id", some (.text p.traceId)),
  ("errors", p.errors)]

/-- The document with all its members. -/
def toValue (p : Problem) : Value :=
  .record (p.fields.map fun (name, value) => (name, value.getD .null))

/-- The document without the members that say nothing. -/
def toCompactValue (p : Problem) : Value :=
  .record (p.fields.filterMap fun (name, value) => value.map fun value => (name, value))

end Problem

end Outreach
