import Outreach.Value.Literal

/-!
What can be wrong with a rule, where it is written or where it meets a customer. Each cause has
its wording here; an error that concerns a place in a written rule names the place.
-/

namespace Outreach

namespace RuleError

/-- The kinds of errors that callers tell apart. -/
inductive Kind where
  | malformed | unknownField | typeMismatch | unsupportedOperator
deriving DecidableEq, Repr

/-- The code that stands for a kind. -/
def Kind.code : Kind → String
  | malformed => "SEG_001"
  | unknownField => "SEG_002"
  | typeMismatch => "SEG_003"
  | unsupportedOperator => "SEG_004"

/-- What a field expected where it found something else. -/
inductive Expected where
  | number | finiteNumber | isoDate | date
deriving DecidableEq, Repr

def Expected.phrase : Expected → String
  | number => "a number"
  | finiteNumber => "a finite number"
  | isoDate => "an ISO date"
  | date => "a date"

inductive Cause where
  /-- A node of a written rule is no mapping. -/
  | notAnObject (kind : String)
  /-- A node of a written rule encloses itself. -/
  | cyclic
  | badCondition (found : Value)
  | noRuleList
  | tooDeep (limit : Nat)
  | missingKeys (keys : List String)
  | emptyField
  | unknownCondition (found : Value)
  | unexpectedChild (kind : String)
  | unsupportedOperator (found : Value)
  | unknownField (name : Value)
  /-- A number field met a truth value. -/
  | booleanNumber (field : String)
  /-- A field met a value of its kind of text or number that it cannot take. -/
  | unfit (field : String) (expected : Expected) (found : Value)
  /-- A field met a value of a kind that it cannot take at all. -/
  | unfitKind (field : String) (expected : Expected) (kind : String)
  | unordered (operator : Operator) (customerKind field ruleKind : String)
  | substringOperand (field ruleKind : String)
  | notSearchable (field customerKind : String)
deriving Repr

namespace Cause

def kind : Cause → Kind
  | notAnObject _ | cyclic | badCondition _ | noRuleList | tooDeep _ | missingKeys _
  | emptyField | unknownCondition _ | unexpectedChild _ => .malformed
  | unsupportedOperator _ => .unsupportedOperator
  | unknownField _ => .unknownField
  | booleanNumber _ | unfit .. | unfitKind .. | unordered .. | substringOperand ..
  | notSearchable .. => .typeMismatch

/-- The value that the wording shows. -/
def found? : Cause → Option Value
  | badCondition found | unknownCondition found | unsupportedOperator found
  | unknownField found | unfit _ _ found => some found
  | _ => none

def quotedWord (word : String) : String := String.ofList (Text.quoted word.toList)

def message : Cause → String
  | notAnObject kind => "Rule must be an object, got " ++ kind
  | cyclic => "Rule tree contains a cycle"
  | badCondition found => "'condition' must be AND or OR, got " ++ found.inspect
  | noRuleList => "Composite rule requires a 'rules' list"
  | tooDeep limit => "Rule tree is nested deeper than " ++ toString limit ++ " levels"
  | missingKeys keys => "Leaf rule is missing " ++ ", ".intercalate (keys.map quotedWord)
  | emptyField => "Leaf rule 'field' must be a non-empty string"
  | unknownCondition found => "Unknown condition '" ++ found.display ++ "'"
  | unexpectedChild kind => "Unexpected child rule of type " ++ kind
  | unsupportedOperator found => "Unsupported operator '" ++ found.display ++ "'"
  | unknownField name => "Unknown customer field '" ++ name.display ++ "'"
  | booleanNumber field => "Field '" ++ field ++ "' expects a number, got a boolean"
  | unfit field expected found =>
      "Field '" ++ field ++ "' expects " ++ expected.phrase ++ ", got " ++ found.inspect
  | unfitKind field expected kind =>
      "Field '" ++ field ++ "' expects " ++ expected.phrase ++ ", got " ++ kind
  | unordered operator customerKind field ruleKind =>
      "Operator '" ++ operator.sign ++ "' cannot compare " ++ customerKind ++ " field '" ++ field ++
        "' with " ++ ruleKind
  | substringOperand field ruleKind =>
      "Substring test on '" ++ field ++ "' needs a string value, got " ++ ruleKind
  | notSearchable field customerKind =>
      "Field '" ++ field ++ "' of type " ++ customerKind ++ " does not support contains"

end Cause

end RuleError

/-- An error of the rule engine, with the place in the written rule if it has one. -/
structure RuleError where
  cause : RuleError.Cause
  path : Option String
deriving Repr

namespace RuleError

def kind (e : RuleError) : Kind := e.cause.kind

/-- The wording alone. -/
def message (e : RuleError) : String := e.cause.message

/-- The wording with the place, unless the place is missing or empty. -/
def fullMessage (e : RuleError) : String :=
  match e.path with
  | some path => if path.isEmpty then e.message else e.message ++ " (at " ++ path ++ ")"
  | none => e.message

end RuleError

end Outreach
