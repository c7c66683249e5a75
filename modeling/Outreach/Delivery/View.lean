import Outreach.Delivery.Log
import Outreach.Delivery.Status
import Outreach.Schema.Dump
import Outreach.Schema.Instant

/-!
Messages as shown: one campaign's message to one customer, and how its delivery went. Delivery
receipts: what the vendor of a channel reports about a message that was sent.
-/

namespace Outreach

structure MessageView where
  id : Int
  campaign : Int
  customer : Int
  message : String
  status : DeliveryStatus
  vendorMessageId : Entry (Option String)
  errorDetails : Entry (Option String)
  extra : Entry (Option (List (Value × Value)))
  sentAt : Entry (Option Moment)
  deliveredAt : Entry (Option Moment)
  createdAt : Entry (Option Moment)
deriving Repr

namespace MessageView

open Schema in
def read : Reader MessageView :=
  record .request "CommunicationLogResponse" fun given =>
    mk <$> required given "id" integer
      <*> required given "campaign_id" integer
      <*> required given "customer_id" integer
      <*> required given "message" text
      <*> required given "status" Vocabulary.read
      <*> permitted given "vendor_message_id" (nullable text)
      <*> permitted given "error_details" (nullable text)
      <*> permitted given "extra" (nullable mapping)
      <*> permitted given "sent_at" (nullable moment)
      <*> permitted given "delivered_at" (nullable moment)
      <*> permitted given "created_at" (nullable moment)

def toValue (style : Style) (view : MessageView) : Value :=
  .record (
    [("id", .int view.id), ("campaign_id", .int view.campaign),
      ("customer_id", .int view.customer), ("message", .text view.message),
      ("status", Vocabulary.toValue view.status)] ++
    style.entry "vendor_message_id" .null (.ofOption .text) view.vendorMessageId ++
    style.entry "error_details" .null (.ofOption .text) view.errorDetails ++
    style.entry "metadata" .null (.ofOption fun entries => style.anything (.dict entries))
      view.extra ++
    style.entry "sent_at" .null (.ofOption style.moment) view.sentAt ++
    style.entry "delivered_at" .null (.ofOption style.moment) view.deliveredAt ++
    style.entry "created_at" .null (.ofOption style.moment) view.createdAt)

end MessageView

/-- The view of a message's log. -/
def MessageLog.view? (log : MessageLog) : Option MessageView :=
  (MessageView.read (.record log.columns)).toOption

/-! ### Receipts -/

structure DeliveryReceipt where
  status : String
  vendorMessageId : Entry (Option String)
  errorDetails : Entry (Option String)
deriving Repr

namespace DeliveryReceipt

/-- The outcomes that a vendor reports. -/
def outcomes : List String := ["delivered", "failed"]

open Schema in
def read (origin : Origin) : Reader DeliveryReceipt :=
  record origin "DeliveryReceiptRequest" fun given =>
    mk <$> required given "status" (oneOf outcomes)
      <*> permitted given "vendor_message_id" (nullable text)
      <*> permitted given "error_details" (nullable text)

def toValue (style : Style) (receipt : DeliveryReceipt) : Value :=
  .record (
    [("status", .text receipt.status)] ++
    style.entry "vendor_message_id" .null (.ofOption .text) receipt.vendorMessageId ++
    style.entry "error_details" .null (.ofOption .text) receipt.errorDetails)

def report (receipt : DeliveryReceipt) : DeliveryReport :=
  let text (entry : Entry (Option String)) : Value := .ofOption .text (entry.getD none)
  ⟨.text receipt.status, text receipt.errorDetails, text receipt.vendorMessageId⟩

end DeliveryReceipt

end Outreach
