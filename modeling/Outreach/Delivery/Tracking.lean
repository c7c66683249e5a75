import Outreach.Delivery.View
import Outreach.Store.Outcome

/-!
Following messages after they were sent: the vendor's receipts move a message's delivery on and are
counted by its campaign.
-/

namespace Outreach.Tracking

/-- The messages of a campaign. -/
def receipts (db : Database) (campaign : Int) : Except Halt (Effect (List MessageView)) := do
  let campaign ← db.campaigns.get .campaign campaign
  let logs := db.logs.rows.filter fun log => log.campaign = campaign.id
  return ⟨db, logs.mapM MessageLog.view?⟩

/-- Records what a vendor reports about a message. -/
def record (db : Database) (now : Moment) (id : Int) (receipt : DeliveryReceipt) :
    Except Halt (Effect MessageView) := do
  let log ← db.logs.get .message id
  let campaign := db.campaigns.find? log.campaign
  let metrics := (campaign.map Campaign.metrics).getD .blank
  let (delivery, metrics) ← (log.delivery.advance now receipt.report metrics).mapError fun move =>
    .refused (.refusedMove move)
  let campaign ← orFail campaign
  metrics.counters.forM fun counter => ensureFits counter.2
  let log := { log with delivery := delivery.stored }
  let campaign := { campaign with metrics, updatedAt := (Stamp.automatic now).moment }
  let db := { db with
    logs := db.logs.replace log
    campaigns := db.campaigns.replace campaign }
  return ⟨db, log.view?⟩

end Outreach.Tracking
