import Outreach.Schema.Dump
import Outreach.Schema.Vocabulary
import Outreach.Store.Column
import Outreach.Store.Table

/-!
Stored orders, with the stages of an order and of its payment.
-/

namespace Outreach

inductive OrderStatus where
  | pending | processing | completed | cancelled
deriving DecidableEq, Repr, Inhabited

instance : Vocabulary OrderStatus where
  all := [.pending, .processing, .completed, .cancelled]
  word
    | .pending => "pending"
    | .processing => "processing"
    | .completed => "completed"
    | .cancelled => "cancelled"
  mem_all status := by cases status <;> decide
  word_injective a b := by cases a <;> cases b <;> simp

inductive PaymentStatus where
  | pending | paid | failed
deriving DecidableEq, Repr, Inhabited

instance : Vocabulary PaymentStatus where
  all := [.pending, .paid, .failed]
  word
    | .pending => "pending"
    | .paid => "paid"
    | .failed => "failed"
  mem_all status := by cases status <;> decide
  word_injective a b := by cases a <;> cases b <;> simp

structure Order where
  id : Int
  customer : Int
  number : String
  amount : Binary64
  items : Value
  status : OrderStatus
  paymentStatus : PaymentStatus
  createdAt : Stamp
deriving Repr, Inhabited

namespace Order

instance : Row Order where
  id := Order.id
  withId n order := { order with id := n }
  id_withId _ _ := rfl

def columns (o : Order) : Columns := [
  ("id", .int o.id), ("customer_id", .int o.customer), ("order_number", .text o.number),
  ("amount", .float o.amount), ("items", o.items), ("status", Vocabulary.toValue o.status),
  ("payment_status", Vocabulary.toValue o.paymentStatus),
  ("created_at", .moment o.createdAt.moment)]

/-- The row of given columns, without a number of its own. -/
def ofColumns? (now : Moment) (given : Columns) : Option Order := do
  let customer ← given.int? "customer_id"
  let number ← given.text? "order_number"
  let amount ← given.number? "amount"
  let status ← given.wordOr? "status" .pending
  let paymentStatus ← given.wordOr? "payment_status" .pending
  some {
    id := 0
    customer
    number
    amount
    items := given.jsonOr "items" (.list [])
    status
    paymentStatus
    createdAt := given.stampOr "created_at" now }

end Order

end Outreach
