import Outreach.Schema.Dump
import Outreach.Store.Column
import Outreach.Store.Table

/-!
Stored segments: a rule over customers under a name, with the number of customers that matched when
they were last counted.
-/

namespace Outreach

structure Segment where
  id : Int
  name : String
  description : Option String
  rules : Value
  estimatedAudience : Int
  lastUpdated : Moment
  createdBy : Option Int
  createdAt : Stamp
deriving Repr, Inhabited

namespace Segment

instance : Row Segment where
  id := Segment.id
  withId n segment := { segment with id := n }
  id_withId _ _ := rfl

def columns (s : Segment) : Columns := [
  ("id", .int s.id), ("name", .text s.name), ("description", .ofOption .text s.description),
  ("rules", s.rules), ("estimated_audience", .int s.estimatedAudience),
  ("last_updated", .moment s.lastUpdated), ("created_by_user_id", .ofOption .int s.createdBy),
  ("created_at", .moment s.createdAt.moment)]

/-- The row of given columns, without a number of its own. -/
def ofColumns? (now : Moment) (given : Columns) : Option Segment := do
  let name ← given.text? "name"
  some {
    id := 0
    name
    description := given.text? "description"
    rules := given.jsonOr "rules" .null
    estimatedAudience := given.intOr "estimated_audience" 0
    lastUpdated := given.momentOr "last_updated" now
    createdBy := given.int? "created_by_user_id"
    createdAt := given.stampOr "created_at" now }

end Segment

end Outreach
