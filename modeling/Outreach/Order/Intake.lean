import Outreach.Order.View
import Outreach.Store.Listing

/-!
Taking in orders. An order that is taken in raises its customer's spend by its amount and the visits
by one, and moves the last visit to the time of the order.
-/

namespace Outreach.Intake

def list (db : Database) (page : PageRequest) (customer : Option Int) :
    Except Halt (Effect (Page OrderView)) := do
  customer.forM ensureFits
  let orders := db.orders.rows.filter fun order => customer.all (order.customer = ·)
  showPage db page Order.view? (newestFirst Order.createdAt orders)

def get (db : Database) (id : Int) : Except Halt (Effect OrderView) := do
  let order ← db.orders.get .order id
  return ⟨db, order.view?⟩

/-- The row of a new order. -/
def newRow (now : Moment) (draft : OrderDraft) : Order where
  id := 0
  customer := draft.customer
  number := draft.number
  amount := draft.amount.stored
  items := .list ((draft.items.getD []).map (OrderItem.toValue {}))
  status := draft.status.getD .pending
  paymentStatus := draft.paymentStatus.getD .pending
  createdAt := .ofMoment now

/-- A customer after an order. -/
def visited (now : Moment) (amount : Binary64) (customer : Customer) : Customer :=
  { customer with
    totalSpend := (customer.totalSpend.add amount).stored
    visits := customer.visits + 1
    lastVisit := some now.wallClock
    updatedAt := (Stamp.automatic now).moment }

/-- Takes in an order for a customer there is, under a number that no order has. -/
def record (db : Database) (now : Moment) (draft : OrderDraft) :
    Except Halt (Effect OrderView) := do
  let customer ← db.customers.get .customer draft.customer
  if db.orders.rows.any fun order => order.number = draft.number then
    refuse (.orderNumberTaken draft.number)
  let customer := visited now draft.amount customer
  ensureFits customer.visits
  let db := { db with
    orders := db.orders.insert (newRow now draft)
    customers := db.customers.replace customer }
  return ⟨db, (db.orders.find? db.orders.lastId).bind Order.view?⟩

end Outreach.Intake
