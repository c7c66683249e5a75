import Outreach.Customer.View
import Outreach.Store.Listing
import Outreach.Text.Pattern
import Outreach.Value.Same

/-!
The directory of customers: listing with search and order, creation, import, change and removal.
E-mail addresses are unique, and every way in looks for a clash before anything is stored.
-/

namespace Outreach.Directory

/-! ### Listing -/

/-- The columns by which customers can be listed. -/
inductive SortColumn where
  | createdAt | name | totalSpend | visits
deriving DecidableEq, Repr

instance : Vocabulary SortColumn where
  all := [.createdAt, .name, .totalSpend, .visits]
  word
    | .createdAt => "created_at"
    | .name => "name"
    | .totalSpend => "total_spend"
    | .visits => "visits"
  mem_all column := by cases column <;> decide
  word_injective a b := by cases a <;> cases b <;> simp

structure SortOrder where
  column : SortColumn
  descending : Bool
deriving DecidableEq, Repr

/-- The order that a text names: a column, after a minus sign where it descends. -/
def SortOrder.ofText? (text : String) : Option SortOrder :=
  let column := String.ofList (text.toList.dropWhile (· = '-'))
  (Vocabulary.ofWord? column).map fun column => ⟨column, text.toList.head? = some '-'⟩

/-- Whether one customer may stand before another in a column that ascends. -/
def SortColumn.ascends (column : SortColumn) (a b : Customer) : Bool :=
  match column with
  | createdAt => a.createdAt.rank ≤ b.createdAt.rank
  | name => a.name ≤ b.name
  | totalSpend => a.totalSpend.atMost b.totalSpend
  | visits => a.visits ≤ b.visits

/-- Customers in an order; those who are equal in it stay in the order of their numbers. -/
def SortOrder.sort (order : SortOrder) (customers : List Customer) : List Customer :=
  customers.mergeSort fun a b =>
    if order.descending then order.column.ascends b a else order.column.ascends a b

/-- What a listing is asked for. -/
structure Query where
  page : PageRequest
  search : Option String
  order : String
deriving Repr

/-- Whether a customer is found by a search. -/
def isFound (search : String) (customer : Customer) : Bool :=
  let pattern := Text.Pattern.around search.toList
  Text.Pattern.isMatch pattern customer.name.toList ||
    Text.Pattern.isMatch pattern customer.email.toList

/-- The customers who are found by a search; without one all are. A search text that is too long
cannot be looked for in anyone. -/
def found (search : Option String) (customers : List Customer) : Except Halt (List Customer) :=
  match nonempty? search with
  | none => .ok customers
  | some search => do
      ensure (customers.isEmpty || !Text.Pattern.isOversized (Text.Pattern.around search.toList))
      return customers.filter (isFound search)

/-- The order asked for. -/
def orderOf (text : String) : Except Halt SortOrder :=
  match SortOrder.ofText? text with
  | some order => .ok order
  | none => refuse (.unsortable text (Vocabulary.words SortColumn))

def list (db : Database) (query : Query) : Except Halt (Effect (Page CustomerView)) := do
  let order ← orderOf query.order
  let found ← found query.search db.customers.rows
  showPage db query.page Customer.view? (order.sort found)

/-! ### One customer -/

def get (db : Database) (id : Int) : Except Halt (Effect CustomerView) := do
  let customer ← db.customers.get .customer id
  return ⟨db, customer.view?⟩

/-- Refuses an e-mail address that a customer has, the one with a number apart. -/
def ensureEmailFree (db : Database) (email : String) (owner : Option Int) : Except Halt Unit :=
  let taken (customer : Customer) : Bool :=
    customer.email = email && some customer.id ≠ owner
  if db.customers.rows.any taken then refuse (.emailTaken email) else .ok ()

/-- The row of a new customer. -/
def newRow (now : Moment) (draft : CustomerDraft) : Customer where
  id := 0
  name := draft.name
  email := draft.email
  phone := draft.phone.getD none
  totalSpend := (draft.totalSpend.getD (.zero false)).stored
  visits := draft.visits.getD 0
  lastVisit := (draft.lastVisit.getD none).map Moment.wallClock
  tags := .ofTexts (draft.tags.getD [])
  createdAt := .automatic now
  updatedAt := (Stamp.automatic now).moment

/-- Stores new customers, if all their columns can hold them. -/
def store (db : Database) (rows : List Customer) : Except Halt Database := do
  rows.forM fun row => ensureFits row.visits
  return { db with customers := db.customers.insertAll rows }

def create (db : Database) (now : Moment) (draft : CustomerDraft) :
    Except Halt (Effect CustomerView) := do
  ensureEmailFree db draft.email none
  let db ← store db [newRow now draft]
  return ⟨db, (db.customers.find? db.customers.lastId).bind Customer.view?⟩

def delete (db : Database) (id : Int) : Except Halt (Effect Unit) := do
  let customer ← db.customers.get .customer id
  return ⟨db.deleteCustomer customer.id, some ()⟩

/-! ### Import -/

/-- What an item that does not fit is called. -/
def misfitName (item : Value) : String :=
  let email := match item with
    | .dict entries => (Value.lookup entries "email").getD .null
    | _ => .null
  if email.isEmpty then "unknown email" else email.display

/-- Reads the items of an import up to the first that does not fit. -/
def readItems : List Value → Except Halt (List CustomerDraft)
  | [] => .ok []
  | item :: rest =>
      match CustomerDraft.read .data item with
      | .accepted draft => (readItems rest).map (draft :: ·)
      | .rejected _ => refuse (.importOfMisfit (misfitName item))

def distinct : List String → Bool
  | [] => true
  | text :: rest => !rest.contains text && distinct rest

/-- The least of the addresses that customers have already. -/
def takenEmail? (db : Database) (emails : List String) : Option String :=
  (((db.customers.rows.map Customer.email).filter emails.contains).mergeSort (· ≤ ·)).head?

/-- Imports customers, all of them or none, and answers with their numbers. -/
def importAll (db : Database) (now : Moment) (payload : Value) :
    Except Halt (Effect (List Int)) := do
  let drafts ← match payload with
    | .list items => readItems items
    | _ => refuse .importOfNoList
  let emails := drafts.map CustomerDraft.email
  if !distinct emails then refuse .importOfDuplicates
  match takenEmail? db emails with
  | some email => refuse (.emailTaken email)
  | none =>
      let stored ← store db (drafts.map (newRow now))
      return ⟨stored, some ((stored.customers.rows.drop db.customers.size).map Customer.id)⟩

/-! ### Change -/

/-- Whether a change gives something that differs from what is stored. A moment with an offset
differs from every stored one. -/
def differs (change : CustomerChange) (row : Customer) : Bool :=
  change.name.differs (· = some row.name) || change.email.differs (· = some row.email) ||
  change.phone.differs (· = row.phone) ||
  change.totalSpend.differs (fun spend => spend.map Binary64.stored = some row.totalSpend) ||
  change.visits.differs (· = some row.visits) || change.lastVisit.differs (· = row.lastVisit) ||
  change.tags.differs fun tags => Value.isSame (.ofOption .ofTexts tags) row.tags

/-- The row after a change, if the row can do without what the change takes away. -/
def changed? (now : Moment) (change : CustomerChange) (row : Customer) : Option Customer := do
  let name ← change.name.orKept? row.name
  let email ← change.email.orKept? row.email
  let totalSpend ← change.totalSpend.orKept? row.totalSpend
  let visits ← change.visits.orKept? row.visits
  some { row with
    name
    email
    phone := change.phone.getD row.phone
    totalSpend := totalSpend.stored
    visits
    lastVisit := (change.lastVisit.getD row.lastVisit).map Moment.wallClock
    tags := (change.tags.toOption.map (.ofOption .ofTexts)).getD row.tags
    updatedAt := if differs change row then (Stamp.automatic now).moment else row.updatedAt }

def update (db : Database) (now : Moment) (id : Int) (change : CustomerChange) :
    Except Halt (Effect CustomerView) := do
  let row ← db.customers.get .customer id
  match change.email with
  | .given (some email) => ensureEmailFree db email (some id)
  | _ => pure ()
  let row ← orFail (changed? now change row)
  ensureFits row.visits
  return ⟨{ db with customers := db.customers.replace row }, row.view?⟩

end Outreach.Directory
