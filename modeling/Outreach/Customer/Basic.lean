import Outreach.Customer.Profile
import Outreach.Schema.Dump
import Outreach.Store.Column
import Outreach.Store.Table

/-!
Stored customers. Spend, visits and the last visit are kept up to date by orders.
-/

namespace Outreach

structure Customer where
  id : Int
  name : String
  email : String
  phone : Option String
  totalSpend : Binary64
  visits : Int
  lastVisit : Option Moment
  tags : Value
  createdAt : Stamp
  updatedAt : Moment
deriving Repr, Inhabited

namespace Customer

instance : Row Customer where
  id := Customer.id
  withId n customer := { customer with id := n }
  id_withId _ _ := rfl

def columns (c : Customer) : Columns := [
  ("id", .int c.id), ("name", .text c.name), ("email", .text c.email),
  ("phone", .ofOption .text c.phone), ("total_spend", .float c.totalSpend),
  ("visits", .int c.visits), ("last_visit", .ofOption .moment c.lastVisit), ("tags", c.tags),
  ("created_at", .moment c.createdAt.moment), ("updated_at", .moment c.updatedAt)]

/-- The row of given columns, without a number of its own. -/
def ofColumns? (now : Moment) (given : Columns) : Option Customer := do
  let name ← given.text? "name"
  let email ← given.text? "email"
  some {
    id := 0
    name
    email
    phone := given.text? "phone"
    totalSpend := (given.number? "total_spend").getD (.zero false)
    visits := given.intOr "visits" 0
    lastVisit := given.moment? "last_visit"
    tags := given.jsonOr "tags" (.list [])
    createdAt := given.stampOr "created_at" now
    updatedAt := given.momentOr "updated_at" now }

/-- What the rule engine sees of a customer, if the tags have members. -/
def profile? (c : Customer) : Option Profile := Profile.ofStored? c.columns

end Customer

end Outreach
