import Outreach.Text.Half

/-!
What can be wrong with data that does not fit its schema: the place inside the data, a code that
programs read, and a wording.
-/

namespace Outreach

namespace Issue

inductive Cause where
  | missing
  | notText
  | brokenText
  | tooShort (least : Nat)
  | tooLong (most : Nat)
  | notInteger
  | unreadableInteger
  | oversizedInteger
  | fractionalInteger
  | notNumber
  | unreadableNumber
  | notFinite
  | notBoolean
  | unreadableBoolean
  | below (least : Int)
  | above (most : Int)
  | notList
  | notMapping
  /-- A value is neither a mapping nor a record of the named kind. -/
  | notRecord (name : String)
  /-- A value has no fields to read. -/
  | notObject
  | notAmong (words : List String)
  | notMoment
  | unreadableMoment (reason : String)
  | unreadableDate (reason : String)
  | invalidEmail (reason : String)
  /-- A check of its own refused the value. -/
  | refused (reason : String)
  | unknownKey
  | brokenJson
deriving DecidableEq, Repr

namespace Cause

def code : Cause → String
  | missing => "missing"
  | notText => "string_type"
  | brokenText => "string_unicode"
  | tooShort _ => "string_too_short"
  | tooLong _ => "string_too_long"
  | notInteger => "int_type"
  | unreadableInteger => "int_parsing"
  | oversizedInteger => "int_parsing_size"
  | fractionalInteger => "int_from_float"
  | notNumber => "float_type"
  | unreadableNumber => "float_parsing"
  | notFinite => "finite_number"
  | notBoolean => "bool_type"
  | unreadableBoolean => "bool_parsing"
  | below _ => "greater_than_equal"
  | above _ => "less_than_equal"
  | notList => "list_type"
  | notMapping => "dict_type"
  | notRecord _ => "model_type"
  | notObject => "model_attributes_type"
  | notAmong _ => "literal_error"
  | notMoment => "datetime_type"
  | unreadableMoment _ => "datetime_parsing"
  | unreadableDate _ => "datetime_from_date_parsing"
  | invalidEmail _ | refused _ => "value_error"
  | unknownKey => "extra_forbidden"
  | brokenJson => "json_invalid"

/-- A number of characters. -/
def characters (n : Nat) : String := toString n ++ (if n = 1 then " character" else " characters")

/-- Words in single quotes, the last two joined by "or". -/
def alternatives : List String → String
  | [] => ""
  | [word] => "'" ++ word ++ "'"
  | [word, last] => "'" ++ word ++ "' or '" ++ last ++ "'"
  | word :: rest => "'" ++ word ++ "', " ++ alternatives rest

def message : Cause → String
  | missing => "Field required"
  | notText => "Input should be a valid string"
  | brokenText => "Input should be a valid string, unable to parse raw data as a unicode string"
  | tooShort least => "String should have at least " ++ characters least
  | tooLong most => "String should have at most " ++ characters most
  | notInteger => "Input should be a valid integer"
  | unreadableInteger => "Input should be a valid integer, unable to parse string as an integer"
  | oversizedInteger =>
      "Unable to parse input string as an integer, exceeded maximum size"
  | fractionalInteger => "Input should be a valid integer, got a number with a fractional part"
  | notNumber => "Input should be a valid number"
  | unreadableNumber => "Input should be a valid number, unable to parse string as a number"
  | notFinite => "Input should be a finite number"
  | notBoolean => "Input should be a valid boolean"
  | unreadableBoolean => "Input should be a valid boolean, unable to interpret input"
  | below least => "Input should be greater than or equal to " ++ toString least
  | above most => "Input should be less than or equal to " ++ toString most
  | notList => "Input should be a valid list"
  | notMapping => "Input should be a valid dictionary"
  | notRecord name => "Input should be a valid dictionary or instance of " ++ name
  | notObject => "Input should be a valid dictionary or object to extract fields from"
  | notAmong words => "Input should be " ++ alternatives words
  | notMoment => "Input should be a valid datetime"
  | unreadableMoment reason => "Input should be a valid datetime, " ++ reason
  | unreadableDate reason => "Input should be a valid datetime or date, " ++ reason
  | invalidEmail reason => "value is not a valid email address: " ++ reason
  | refused reason => "Value error, " ++ Text.withoutHalves reason
  | unknownKey => "Extra inputs are not permitted"
  | brokenJson => "JSON decode error"

end Cause

end Issue

structure Issue where
  /-- The names and numbers that lead to the place. -/
  place : List String
  cause : Issue.Cause
deriving DecidableEq, Repr

namespace Issue

/-- The issue as seen from outside of a field or an item. -/
def under (segment : String) (issue : Issue) : Issue :=
  { issue with place := segment :: issue.place }

def placeText (issue : Issue) : String := ".".intercalate issue.place

end Issue

end Outreach
