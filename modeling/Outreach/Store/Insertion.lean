import Outreach.Schema.Number
import Outreach.Store.Database

/-!
Putting rows into the database by their columns, without any check of a schema. What a table's
columns ask for still holds: that they are known, that their values can be kept, that none is
missing where one is needed, and that no other row has a value that is unique.
-/

namespace Outreach

/-- How a column keeps its values. -/
inductive ColumnKind where
  | whole | number | text | moment | json
  | word (words : List String)
deriving Repr

structure ColumnRule where
  name : String
  kind : ColumnKind
  /-- Whether a row has no value here unless one is given. -/
  required : Bool := false
  unique : Bool := false
deriving Repr

/-- What a row is tied to: one row of another table, or any number of them. -/
inductive Tie where
  | one | many
deriving DecidableEq, Repr

/-- Why a row is not put in. -/
inductive InsertionFault where
  | unknownColumn
  /-- Something that is no row stands where rows belong, or cannot be set. -/
  | unsettable
  /-- A value that its column cannot take. -/
  | unfit
  /-- A value of a kind that the database does not have. -/
  | unsupported
  | oversized
  /-- A text that is not made of characters only. -/
  | unencodable
  /-- A value is missing, or another row has it. -/
  | integrity
deriving DecidableEq, Repr

namespace TableName

def columns : TableName → List ColumnRule
  | users => [
      { name := "id", kind := .whole },
      { name := "google_id", kind := .text, required := true, unique := true },
      { name := "display_name", kind := .text, required := true },
      { name := "email", kind := .text, required := true, unique := true },
      { name := "photo", kind := .text },
      { name := "created_at", kind := .moment }, { name := "updated_at", kind := .moment }]
  | customers => [
      { name := "id", kind := .whole },
      { name := "name", kind := .text, required := true },
      { name := "email", kind := .text, required := true, unique := true },
      { name := "phone", kind := .text },
      { name := "total_spend", kind := .number }, { name := "visits", kind := .whole },
      { name := "last_visit", kind := .moment }, { name := "tags", kind := .json },
      { name := "created_at", kind := .moment }, { name := "updated_at", kind := .moment }]
  | orders => [
      { name := "id", kind := .whole },
      { name := "customer_id", kind := .whole, required := true },
      { name := "order_number", kind := .text, required := true, unique := true },
      { name := "amount", kind := .number, required := true },
      { name := "items", kind := .json },
      { name := "status", kind := .word (Vocabulary.words OrderStatus) },
      { name := "payment_status", kind := .word (Vocabulary.words PaymentStatus) },
      { name := "created_at", kind := .moment }]
  | segments => [
      { name := "id", kind := .whole },
      { name := "name", kind := .text, required := true },
      { name := "description", kind := .text },
      { name := "rules", kind := .json, required := true },
      { name := "estimated_audience", kind := .whole },
      { name := "last_updated", kind := .moment },
      { name := "created_by_user_id", kind := .whole },
      { name := "created_at", kind := .moment }]
  | campaigns => [
      { name := "id", kind := .whole },
      { name := "name", kind := .text, required := true },
      { name := "description", kind := .text },
      { name := "type", kind := .word (Vocabulary.words Channel), required := true },
      { name := "status", kind := .word (Vocabulary.words CampaignStatus) },
      { name := "segment_id", kind := .whole, required := true },
      { name := "content", kind := .json, required := true },
      { name := "schedule", kind := .json },
      { name := "created_by_user_id", kind := .whole },
      { name := "created_at", kind := .moment }, { name := "updated_at", kind := .moment }] ++
      (Metrics.blank : Metrics Int).counters.map fun (name, _) => { name, kind := .whole }
  | logs => [
      { name := "id", kind := .whole },
      { name := "campaign_id", kind := .whole, required := true },
      { name := "customer_id", kind := .whole, required := true },
      { name := "message", kind := .text, required := true },
      { name := "status", kind := .word (Vocabulary.words DeliveryStatus) },
      { name := "vendor_message_id", kind := .text }, { name := "error_details", kind := .text },
      { name := "extra", kind := .json },
      { name := "sent_at", kind := .moment }, { name := "delivered_at", kind := .moment },
      { name := "created_at", kind := .moment }]

def ties : TableName → List (String × Tie)
  | users => []
  | customers => [("orders", .many), ("communication_logs", .many)]
  | orders => [("customer", .one)]
  | segments => [("campaigns", .many)]
  | campaigns => [("segment", .one), ("communication_logs", .many)]
  | logs => [("campaign", .one), ("customer", .one)]

/-- What rows of a table show besides their columns, and can not be given. -/
def shownOnly : TableName → List String
  | campaigns => ["metrics"]
  | _ => []

/-- What all rows know of their tables; it may be given and is not kept. -/
def common : List String := ["metadata", "registry"]

/-- What is wrong with giving a value under a name. -/
def givenFault? (table : TableName) (name : String) (value : Value) : Option InsertionFault :=
  if (table.columns.map (·.name)).contains name || common.contains name then none
  else if table.shownOnly.contains name then some .unsettable
  else match table.ties.lookup name, value with
    | none, _ => some .unknownColumn
    | some .one, .null | some .many, .list [] => none
    | some .one, _ | some .many, .list _ => some .unsettable
    | some .many, _ => some .unknownColumn

/-- What is wrong with given columns before they are put in. -/
def fault? (table : TableName) (given : Columns) : Option InsertionFault :=
  given.findSome? fun (name, value) => table.givenFault? name value

end TableName

namespace ColumnKind

def keepText : Value → Except InsertionFault Value
  | .bool b => .ok (.text (if b then "1" else "0"))
  | .int n => if fitsColumn n then .ok (.text (toString n)) else .error .oversized
  | .float x => .ok (if x = .nan then .null else .text (String.ofList x.toText))
  | .date d => .ok (.text (String.ofList (Moment.dateText d)))
  | .moment m => .ok (.text (String.ofList (m.toText ' ')))
  | .bytes bs => .ok (.ofEncoded bs)
  | value =>
      match value.asText? with
      | some letters => if Text.isWhole letters then .ok (.text letters) else .error .unencodable
      | none => .error .unsupported

def keepWhole : Value → Except InsertionFault Value
  | .bool b => .ok (.int (if b then 1 else 0))
  | .int n => if fitsColumn n then .ok (.int n) else .error .oversized
  | .float x => .ok ((x.toInt?.map .int).getD (.float x))
  | .date _ | .moment _ | .bytes _ => .ok .null
  | value =>
      match value.asText? with
      | some letters => .ok (((Schema.integerOfText letters).toOption.map .int).getD .null)
      | none => .error .unsupported

def keepNumber (value : Value) : Except InsertionFault Value :=
  match Schema.number value with
  | .accepted .nan => .error .integrity
  | .accepted x => .ok (.float x)
  | .rejected _ => .error .unfit

/-- A value as a column keeps it. -/
def keep (kind : ColumnKind) (value : Value) : Except InsertionFault Value :=
  match kind with
  | text => keepText value
  | whole => keepWhole value
  | number => keepNumber value
  | moment =>
      match value with
      | .moment m => .ok (.moment m)
      | .date d => .ok (.moment ⟨d, .midnight, none⟩)
      | _ => .error .unfit
  | json => if (Json.write? value).isSome then .ok value else .error .unfit
  | word words =>
      match value with
      | .text letters => if words.contains letters then .ok value else .error .unfit
      | _ => .error .unfit

end ColumnKind

namespace ColumnRule

/-- Whether given columns lack a value that a row has to have. A null that is kept as JSON is a
value. -/
def isMissing (rule : ColumnRule) (given : Columns) : Bool :=
  rule.required && match rule.kind, given.lookup rule.name with
    | .json, found => found.isNone
    | _, some .null | _, none => true
    | _, some _ => false

/-- Whether another row has the value that is given for a column. -/
def clashes (rule : ColumnRule) (given : Columns) (rows : List Columns) : Bool :=
  rule.unique && rows.any fun row => Value.isSame (row.get rule.name) (given.get rule.name)

end ColumnRule

namespace Database

/-- The columns of a row as they are kept. Null is kept as it is given. -/
def keepColumns (table : TableName) (given : Columns) : Except InsertionFault Columns :=
  table.columns.foldlM (fun kept rule =>
    match given.lookup rule.name with
    | none => .ok kept
    | some .null => .ok (kept ++ [(rule.name, .null)])
    | some value => do
        let value ← rule.kind.keep value
        .ok (kept ++ [(rule.name, value)])) []

/-- Puts a row of given columns into a table. -/
def insertColumns (db : Database) (now : Moment) (table : TableName) (given : Columns) :
    Except InsertionFault Database := do
  if let some fault := table.fault? given then throw fault
  let kept ← keepColumns table given
  if table.columns.any fun rule => rule.isMissing kept || rule.clashes kept (db.dump table) then
    throw .integrity
  match db.insertColumns? now table kept with
  | some db => .ok db
  | none => .error .integrity

end Database

end Outreach
