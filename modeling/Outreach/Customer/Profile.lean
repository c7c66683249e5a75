import Outreach.Rule.Evaluation

/-!
What the rule engine sees of a customer: ten attributes, taken as a snapshot. A profile is made
from attributes given by name, or from the attributes of a stored customer, where missing numbers
are zero and the tags become a tuple.
-/

namespace Outreach

structure Profile where
  id : Value := .null
  name : Value := .null
  email : Value := .null
  phone : Value := .null
  totalSpend : Value := .int 0
  visits : Value := .int 0
  lastVisit : Value := .null
  tags : Value := .tuple []
  createdAt : Value := .null
  updatedAt : Value := .null
deriving Repr, Inhabited

namespace Profile

/-- The attributes by name. -/
def attributes (p : Profile) : List (String × Value) := [
  ("id", p.id), ("name", p.name), ("email", p.email), ("phone", p.phone),
  ("total_spend", p.totalSpend), ("visits", p.visits), ("last_visit", p.lastVisit),
  ("tags", p.tags), ("created_at", p.createdAt), ("updated_at", p.updatedAt)]

def subject (p : Profile) : Subject := .attributes p.attributes

/-- The names of the attributes. -/
def names : List String := (default : Profile).attributes.map (·.1)

/-- The profile with the given attributes in which those left out have their defaults. -/
def ofAttributes (given : List (String × Value)) : Profile :=
  let blank : Profile := {}
  { id := (given.lookup "id").getD blank.id
    name := (given.lookup "name").getD blank.name
    email := (given.lookup "email").getD blank.email
    phone := (given.lookup "phone").getD blank.phone
    totalSpend := (given.lookup "total_spend").getD blank.totalSpend
    visits := (given.lookup "visits").getD blank.visits
    lastVisit := (given.lookup "last_visit").getD blank.lastVisit
    tags := (given.lookup "tags").getD blank.tags
    createdAt := (given.lookup "created_at").getD blank.createdAt
    updatedAt := (given.lookup "updated_at").getD blank.updatedAt }

/-- The attributes of a customer that was never stored: those left out are null. -/
def storedAttributes (given : List (String × Value)) : List (String × Value) :=
  names.map fun name => (name, (given.lookup name).getD .null)

def orZero : Value → Value
  | .null => .int 0
  | value => value

/-- Tags as a tuple of their members; none where the value counts as nothing. A value without
members has no tags to give. -/
def tagTuple? (tags : Value) : Option Value :=
  if tags.isEmpty then some (.tuple [])
  else (Rule.members? tags).map .tuple

/-- The snapshot of stored attributes, if the tags have members. -/
def ofStored? (given : List (String × Value)) : Option Profile :=
  let stored := storedAttributes given
  let get (name : String) : Value := (stored.lookup name).getD .null
  (tagTuple? (get "tags")).map fun tags =>
    { id := get "id"
      name := get "name"
      email := get "email"
      phone := get "phone"
      totalSpend := orZero (get "total_spend")
      visits := orZero (get "visits")
      lastVisit := get "last_visit"
      tags
      createdAt := get "created_at"
      updatedAt := get "updated_at" }

end Profile

end Outreach
