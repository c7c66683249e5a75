import Outreach.Customer.Basic
import Outreach.Schema.Dump
import Outreach.Schema.Instant

/-!
Customers as they are submitted: drafts of new ones, and changes to stored ones, where only the
fields that are given change. Customers as shown: a stored customer whose columns do not fit the view
cannot be shown.
-/

namespace Outreach

/-- A new customer. -/
structure CustomerDraft where
  name : String
  email : String
  phone : Entry (Option String)
  totalSpend : Entry Binary64
  visits : Entry Int
  lastVisit : Entry (Option Moment)
  tags : Entry (List String)
deriving Repr

namespace CustomerDraft

open Schema in
def ofFields (given : List (Value × Value)) : Checked CustomerDraft :=
  mk <$> required given "name" (boundedText 1 255)
    <*> required given "email" Schema.email
    <*> permitted given "phone" (nullable (boundedText 0 50))
    <*> permitted given "total_spend" Schema.amount
    <*> permitted given "visits" (integerFrom 0)
    <*> permitted given "last_visit" (nullable moment)
    <*> permitted given "tags" (list text)

def read (origin : Origin) : Reader CustomerDraft := Schema.record origin "CustomerCreate" ofFields

/-- The spend that stands for one not given: an exact zero, which JSON writes as a double. -/
def defaultSpend (style : Style) : Value :=
  if style.json then .float (.zero false) else .int 0

def fields (style : Style) (draft : CustomerDraft) : List (String × Value) :=
  [("name", .text draft.name), ("email", .text draft.email)] ++
  style.entry "phone" .null (.ofOption .text) draft.phone ++
  style.entry "total_spend" (defaultSpend style) .float draft.totalSpend ++
  style.entry "visits" (.int 0) .int draft.visits ++
  style.entry "last_visit" .null (.ofOption style.moment) draft.lastVisit ++
  style.entry "tags" (.list []) .ofTexts draft.tags

def toValue (style : Style) (draft : CustomerDraft) : Value := .record (draft.fields style)

end CustomerDraft

/-- A change to a customer. Every field may be given as null, also one that a customer needs. -/
structure CustomerChange where
  name : Entry (Option String)
  email : Entry (Option String)
  phone : Entry (Option String)
  totalSpend : Entry (Option Binary64)
  visits : Entry (Option Int)
  lastVisit : Entry (Option Moment)
  tags : Entry (Option (List String))
deriving Repr

namespace CustomerChange

open Schema in
def read (origin : Origin) : Reader CustomerChange :=
  record origin "CustomerUpdate" fun given =>
    mk <$> permitted given "name" (nullable (boundedText 1 255))
      <*> permitted given "email" (nullable Schema.email)
      <*> permitted given "phone" (nullable (boundedText 0 50))
      <*> permitted given "total_spend" (nullable Schema.amount)
      <*> permitted given "visits" (nullable (integerFrom 0))
      <*> permitted given "last_visit" (nullable moment)
      <*> permitted given "tags" (nullable (list text))

def toValue (style : Style) (change : CustomerChange) : Value :=
  .record (
    style.entry "name" .null (.ofOption .text) change.name ++
    style.entry "email" .null (.ofOption .text) change.email ++
    style.entry "phone" .null (.ofOption .text) change.phone ++
    style.entry "total_spend" .null (.ofOption .float) change.totalSpend ++
    style.entry "visits" .null (.ofOption .int) change.visits ++
    style.entry "last_visit" .null (.ofOption style.moment) change.lastVisit ++
    style.entry "tags" .null (.ofOption .ofTexts) change.tags)

end CustomerChange

/-! ### What is shown -/

structure CustomerView where
  details : CustomerDraft
  id : Int
  createdAt : Entry (Option Moment)
  updatedAt : Entry (Option Moment)
deriving Repr

namespace CustomerView

open Schema in
def read : Reader CustomerView :=
  record .request "CustomerResponse" fun given =>
    mk <$> CustomerDraft.ofFields given
      <*> required given "id" integer
      <*> permitted given "created_at" (nullable moment)
      <*> permitted given "updated_at" (nullable moment)

def fields (style : Style) (view : CustomerView) : List (String × Value) :=
  view.details.fields style ++ [("id", .int view.id)] ++
  style.entry "created_at" .null (.ofOption style.moment) view.createdAt ++
  style.entry "updated_at" .null (.ofOption style.moment) view.updatedAt

def toValue (style : Style) (view : CustomerView) : Value := .record (view.fields style)

end CustomerView

/-- The view of a stored customer. -/
def Customer.view? (customer : Customer) : Option CustomerView :=
  (CustomerView.read (.record customer.columns)).toOption

end Outreach
