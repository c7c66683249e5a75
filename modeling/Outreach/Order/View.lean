import Outreach.Order.Basic
import Outreach.Schema.Dump
import Outreach.Schema.Instant
import Outreach.Schema.Number

/-!
Orders as they are submitted, and orders as shown.
-/

namespace Outreach

/-- One line of an order. -/
structure OrderItem where
  name : String
  quantity : Entry Int
  price : Binary64
deriving Repr

namespace OrderItem

open Schema in
def read (origin : Origin) : Reader OrderItem :=
  record origin "OrderItem" fun given =>
    mk <$> required given "name" text
      <*> permitted given "quantity" (integerFrom 1)
      <*> required given "price" Schema.amount

def toValue (style : Style) (item : OrderItem) : Value :=
  .record (
    [("name", .text item.name)] ++
    style.entry "quantity" (.int 1) .int item.quantity ++
    [("price", .float item.price)])

end OrderItem

/-- A new order. -/
structure OrderDraft where
  customer : Int
  number : String
  amount : Binary64
  items : Entry (List OrderItem)
  status : Entry OrderStatus
  paymentStatus : Entry PaymentStatus
deriving Repr

namespace OrderDraft

open Schema in
def read (origin : Origin) : Reader OrderDraft :=
  record origin "OrderCreate" fun given =>
    mk <$> required given "customer_id" integer
      <*> required given "order_number" (boundedText 1 100)
      <*> required given "amount" Schema.amount
      <*> permitted given "items" (list (OrderItem.read origin))
      <*> permitted given "status" Vocabulary.read
      <*> permitted given "payment_status" Vocabulary.read

def toValue (style : Style) (draft : OrderDraft) : Value :=
  .record (
    [("customer_id", .int draft.customer), ("order_number", .text draft.number),
      ("amount", .float draft.amount)] ++
    style.entry "items" (.list []) (fun items => .list (items.map (OrderItem.toValue style)))
      draft.items ++
    style.entry "status" (Vocabulary.toValue OrderStatus.pending) Vocabulary.toValue draft.status ++
    style.entry "payment_status" (Vocabulary.toValue PaymentStatus.pending) Vocabulary.toValue
      draft.paymentStatus)

end OrderDraft

/-! ### What is shown -/

structure OrderView where
  id : Int
  customer : Int
  number : String
  amount : Binary64
  items : Entry (List OrderItem)
  status : OrderStatus
  paymentStatus : PaymentStatus
  createdAt : Entry (Option Moment)
deriving Repr

namespace OrderView

open Schema in
def read : Reader OrderView :=
  record .request "OrderResponse" fun given =>
    mk <$> required given "id" integer
      <*> required given "customer_id" integer
      <*> required given "order_number" text
      <*> required given "amount" Schema.number
      <*> permitted given "items" (list (OrderItem.read .data))
      <*> required given "status" Vocabulary.read
      <*> required given "payment_status" Vocabulary.read
      <*> permitted given "created_at" (nullable moment)

def toValue (style : Style) (view : OrderView) : Value :=
  .record (
    [("id", .int view.id), ("customer_id", .int view.customer),
      ("order_number", .text view.number), ("amount", .float view.amount)] ++
    style.entry "items" (.list []) (fun items => .list (items.map (OrderItem.toValue style)))
      view.items ++
    [("status", Vocabulary.toValue view.status),
      ("payment_status", Vocabulary.toValue view.paymentStatus)] ++
    style.entry "created_at" .null (.ofOption style.moment) view.createdAt)

end OrderView

/-- The view of a stored order. -/
def Order.view? (order : Order) : Option OrderView :=
  (OrderView.read (.record order.columns)).toOption

end Outreach
