import Outreach.Campaign.View
import Outreach.Customer.View
import Outreach.Delivery.View
import Outreach.Order.View
import Outreach.Segment.View
import Outreach.User.Basic

/-!
The schemas by name. Each reads data and writes again what it read.
-/

namespace Outreach.Schema

/-- Reads data and writes it again. -/
def through {α : Type} (read : Reader α) (write : α → Value) : Reader Value :=
  fun data => (read data).map write

/-- The schemas of data that come in. -/
def drafts (store : ValueStore) (style : Style) : List (String × Reader Value) := [
  ("CustomerCreate", through (CustomerDraft.read .data) (·.toValue style)),
  ("CustomerUpdate", through (CustomerChange.read .data) (·.toValue style)),
  ("OrderItem", through (OrderItem.read .data) (·.toValue style)),
  ("OrderCreate", through (OrderDraft.read .data) (·.toValue style)),
  ("SegmentCreate", through (SegmentDraft.read store .data) (·.toValue style)),
  ("SegmentUpdate", through (SegmentChange.read store .data) (·.toValue style)),
  ("SegmentPreviewRequest", through (SegmentPreview.read store .data) (·.toValue style)),
  ("CampaignContent", through (CampaignContent.read .data) (·.toValue style)),
  ("CampaignSchedule", through (CampaignSchedule.read .data) (·.toValue style)),
  ("CampaignCreate", through (CampaignDraft.read .data) (·.toValue style)),
  ("CampaignUpdate", through (CampaignChange.read .data) (·.toValue style)),
  ("DeliveryReceiptRequest", through (DeliveryReceipt.read .data) (·.toValue style)),
  ("GoogleProfile", through SignInProfile.read (·.toValue style)),
  ("TokenData", through TokenIdentity.read (·.toValue style))]

/-- The schemas of what is shown. -/
def views (style : Style) : List (String × Reader Value) := [
  ("UserResponse", through UserView.read (·.toValue style)),
  ("CustomerResponse", through CustomerView.read (·.toValue style)),
  ("OrderResponse", through OrderView.read (·.toValue style)),
  ("SegmentResponse", through SegmentView.read (·.toValue style)),
  ("CampaignMetrics", through Metrics.read (·.toValue)),
  ("CampaignResponse", through CampaignView.read (·.toValue style)),
  ("CommunicationLogResponse", through MessageView.read (·.toValue style))]

/-- Data of which only the rules still refer to the store, as they are read where they stand. -/
def exposedButRules (store : ValueStore) (data : Value) : Value :=
  match data.resolve store with
  | .dict entries => .dict (entries.map fun (key, item) =>
      (key, if key.asText? == some "rules" then item else item.exposed store))
  | _ => data.exposed store

/-- The schema with a name. -/
def named? (store : ValueStore) (style : Style) (name : String) : Option (Reader Value) :=
  match (drafts store style).lookup name with
  | some read => some fun data => read (exposedButRules store data)
  | none => ((views style).lookup name).map fun read data => read (data.exposed store)

end Outreach.Schema
