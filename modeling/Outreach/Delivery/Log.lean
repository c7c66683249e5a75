import Outreach.Delivery.Status
import Outreach.Schema.Dump
import Outreach.Store.Column
import Outreach.Store.Table

/-!
The log of a message: one campaign's message to one customer, and its delivery.
-/

namespace Outreach

/-- The columns that say how a delivery went. -/
def Delivery.columns (d : Delivery) : Columns := [
  ("status", d.status), ("vendor_message_id", d.vendorMessageId),
  ("error_details", d.errorDetails), ("sent_at", d.sentAt), ("delivered_at", d.deliveredAt)]

structure MessageLog where
  id : Int
  campaign : Int
  customer : Int
  message : String
  delivery : Delivery
  /-- Anything else that is known of the message. -/
  extra : Value
  createdAt : Moment
deriving Repr, Inhabited

namespace MessageLog

instance : Row MessageLog where
  id := MessageLog.id
  withId n log := { log with id := n }
  id_withId _ _ := rfl

def columns (l : MessageLog) : Columns := [
  ("id", .int l.id), ("campaign_id", .int l.campaign), ("customer_id", .int l.customer),
  ("message", .text l.message)] ++ l.delivery.columns ++ [
  ("extra", l.extra), ("created_at", .moment l.createdAt)]

/-- The row of given columns, without a number of its own. -/
def ofColumns? (now : Moment) (given : Columns) : Option MessageLog := do
  let campaign ← given.int? "campaign_id"
  let customer ← given.int? "customer_id"
  let message ← given.text? "message"
  some {
    id := 0
    campaign
    customer
    message
    delivery := {
      status := .text (given.textOr "status" DeliveryStatus.queued.word)
      vendorMessageId := .ofOption .text (given.text? "vendor_message_id")
      errorDetails := .ofOption .text (given.text? "error_details")
      sentAt := .ofOption .moment (given.moment? "sent_at")
      deliveredAt := .ofOption .moment (given.moment? "delivered_at") }
    extra := given.jsonOr "extra" .null
    createdAt := given.momentOr "created_at" now }

end MessageLog

end Outreach
