import Outreach.Calendar.Iso
import Outreach.Rule.Error
import Outreach.Value.Basic

/-!
The attributes of customers that rules may name. A field has a name in written rules, an attribute
name, and a type; both sides of a comparison are brought to that type first. Names outside the
registry are refused, never looked up.
-/

namespace Outreach

inductive FieldType where
  | number | text | date | list
deriving DecidableEq, Repr, Inhabited

def FieldType.name : FieldType → String
  | number => "number"
  | text => "string"
  | date => "date"
  | list => "list"

def FieldType.ofName? (name : String) : Option FieldType :=
  [number, text, date, list].find? fun t => t.name = name

/-- A customer attribute that a rule may name. -/
structure Field where
  name : String
  property : String
  type : FieldType
  description : String
deriving DecidableEq, Repr, Inhabited

/-- What a rule is evaluated on: a mapping, or something with attributes. -/
inductive Subject where
  | mapping (entries : List (Value × Value))
  | attributes (entries : List (String × Value))
deriving Repr, Inhabited

/-- Any value as something to evaluate rules on. -/
def Subject.ofValue : Value → Subject
  | .dict entries => .mapping entries
  | value => .attributes value.attributes

namespace Field

open RuleError (Cause Expected)

/-- The outcome of bringing a value to a field's type. -/
abbrev Outcome := Except RuleError Value

def mismatch (cause : Cause) : Outcome := .error ⟨cause, none⟩

/-- A number as it is, or the decimal that a text writes. -/
def toNumber (name : String) (value : Value) : Outcome :=
  match value with
  | .bool _ => mismatch (.booleanNumber name)
  | .int n => .ok (.int n)
  | .float x => if x.isFinite then .ok (.float x) else mismatch (.unfit name .finiteNumber value)
  | .decimal d =>
      if d.isFinite then .ok (.decimal d) else mismatch (.unfit name .finiteNumber value)
  | _ =>
      match value.asText? with
      | none => mismatch (.unfitKind name .number value.kindName)
      | some s =>
          match Decimal.ofText? s.toList with
          | none => mismatch (.unfit name .number value)
          | some d =>
              if d.isFinite then .ok (.decimal d) else mismatch (.unfit name .finiteNumber value)

/-- A moment with an offset; what has none is universal time, a date its midnight. -/
def toMoment (name : String) (value : Value) : Outcome :=
  match value with
  | .moment m => .ok (.moment m.inUniversalTime)
  | .date d => .ok (.moment (Moment.ofDate d).inUniversalTime)
  | _ =>
      match value.asText? with
      | none => mismatch (.unfitKind name .date value.kindName)
      | some s =>
          match Iso.ofText? s.toList with
          | none => mismatch (.unfit name .isoDate value)
          | some m => .ok (.moment m.inUniversalTime)

/-- Sequences and sets as tuples, anything else as it is. -/
def toTuple : Value → Value
  | .list items | .tuple items | .set items => .tuple items
  | value => value

/-- Brings a value to the field's type. Null passes. -/
def normalize (field : Field) (value : Value) : Outcome :=
  match value with
  | .null => .ok .null
  | _ =>
      match field.type with
      | .number => toNumber field.name value
      | .text => .ok value
      | .date => toMoment field.name value
      | .list => .ok (toTuple value)

/-- The raw attribute: in a mapping under the written name, else under the attribute name. -/
def raw? (field : Field) : Subject → Option Value
  | .mapping entries =>
      (Value.lookup entries field.name).or (Value.lookup entries field.property)
  | .attributes entries => List.lookup field.property entries

/-- The attribute of a customer, brought to the field's type. -/
def read (field : Field) (subject : Subject) : Outcome :=
  match field.raw? subject with
  | some value => field.normalize value
  | none => .error ⟨.unknownField (.text field.name), none⟩

end Field

/-- Fields under the names by which rules may call them. -/
abbrev Registry := List (String × Field)

namespace Registry

/-- Fields under their own names and, unless the name is taken, under their attribute names. -/
def ofFields (fields : List Field) : Registry :=
  fields.foldl (fun registry field =>
    let named := registry ++ [(field.name, field)]
    if (List.lookup field.property named).isSome then named
    else named ++ [(field.property, field)]) []

/-- The attributes of customers. -/
def customerFields : List Field := [
  ⟨"id", "id", .number, "Customer identifier"⟩,
  ⟨"name", "name", .text, "Customer name"⟩,
  ⟨"email", "email", .text, "Customer email address"⟩,
  ⟨"phone", "phone", .text, "Customer phone number"⟩,
  ⟨"totalSpend", "total_spend", .number, "Lifetime order amount"⟩,
  ⟨"visits", "visits", .number, "Number of orders placed"⟩,
  ⟨"lastVisit", "last_visit", .date, "Date of the latest order"⟩,
  ⟨"tags", "tags", .list, "Free-form customer tags"⟩,
  ⟨"createdAt", "created_at", .date, "When the customer was created"⟩,
  ⟨"updatedAt", "updated_at", .date, "When the customer was last updated"⟩]

/-- The registry that rules are read with unless another is given. -/
def standard : Registry := ofFields customerFields

/-- The field that a name calls. -/
def resolve (registry : Registry) (name : Value) : Except RuleError Field :=
  match name.asText?.bind (List.lookup · registry) with
  | some field => .ok field
  | none => .error ⟨.unknownField name, none⟩

end Registry

end Outreach
