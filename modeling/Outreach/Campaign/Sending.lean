import Outreach.Campaign.Catalogue
import Outreach.Delivery.Message
import Outreach.Segment.Catalogue

/-!
Sending a campaign: every customer who belongs to the campaign's segment gets one message, in the
order of their numbers, and the campaign is completed. All of it happens or nothing does.
-/

namespace Outreach.Campaigns

/-- A message under way to a member of the audience. -/
structure Dispatch where
  message : String
  handover : Message.Handover
  /-- The name that the channel's vendor knows the message by. -/
  vendorId : Option String
deriving Repr

/-- Writes a member's message and hands it to the campaign's channel. -/
def dispatch (campaign : Campaign) (vendorId : String) (member : Audience.Member) :
    Except Halt Dispatch := do
  let message ←
    (Message.render campaign.content member.profile).mapError fun _ => .failed .unforeseen
  let handover := Message.handOver (some (Vocabulary.word campaign.channel)) member.profile
  return ⟨message, handover, if handover.status = .sent then some vendorId else none⟩

/-- The log of a message that waits to be sent. -/
def queuedLog (now : Moment) (campaign : Campaign) (member : Audience.Member) (message : String) :
    MessageLog where
  id := 0
  campaign := campaign.id
  customer := member.customer.id
  message
  delivery := { status := Vocabulary.toValue DeliveryStatus.queued }
  extra := .record [("channel", Vocabulary.toValue campaign.channel)]
  createdAt := (Stamp.automatic now).moment

/-- The logs written so far and the campaign's counters. -/
structure Progress where
  logs : List MessageLog
  metrics : Metrics Int
deriving Repr

/-- Sends to one member. -/
def sendTo (now : Moment) (campaign : Campaign) (vendorId : String) (progress : Progress)
    (member : Audience.Member) : Except Halt Progress := do
  let dispatched ← dispatch campaign vendorId member
  let log := queuedLog now campaign member dispatched.message
  let report : DeliveryReport := {
    status := Vocabulary.toValue dispatched.handover.status
    errorDetails := .ofOption .text dispatched.handover.errorDetails
    vendorMessageId := .ofOption .text dispatched.vendorId }
  let (delivery, metrics) ← (log.delivery.advance now report progress.metrics).mapError fun move =>
    .refused (.refusedMove move)
  return ⟨progress.logs ++ [{ log with delivery := delivery.stored }], metrics⟩

/-- Sends to members one after the other; each message has a vendor name of its own. -/
def sendToAll (now : Moment) (campaign : Campaign) (vendorIds : Nat → String) :
    (place : Nat) → Progress → List Audience.Member → Except Halt Progress
  | _, progress, [] => .ok progress
  | place, progress, member :: rest => do
      let progress ← sendTo now campaign (vendorIds place) progress member
      sendToAll now campaign vendorIds (place + 1) progress rest

/-- What is told of a campaign that was sent. -/
structure Sent where
  campaign : Int
  total : Nat
  sent : Nat
  failed : Nat
deriving DecidableEq, Repr

def Sent.ofLogs (campaign : Int) (logs : List MessageLog) : Sent :=
  let withStatus (status : DeliveryStatus) : Nat :=
    (logs.filter fun log => Delivery.station? log.delivery.status = some status).length
  ⟨campaign, logs.length, withStatus .sent, withStatus .failed⟩

def send (settings : Settings) (db : Database) (now : Moment) (vendorIds : Nat → String)
    (id : Int) : Except Halt (Effect Sent) := do
  let campaign ← db.campaigns.get .campaign id
  ensureUnsent campaign
  let segment ← db.segments.get .segment campaign.segment
  let audience := Audience.members settings.batchSize db.customers [] segment.rules fun _ => false
  let progress ← sendToAll now campaign vendorIds 0 ⟨[], campaign.metrics⟩ audience.found
  match audience.failure with
  | some failure => .error (Segments.haltOf failure)
  | none =>
      progress.metrics.counters.forM fun counter => ensureFits counter.2
      let campaign := { campaign with
        status := .completed
        metrics := progress.metrics
        updatedAt := (Stamp.automatic now).moment }
      let db := { db with
        campaigns := db.campaigns.replace campaign
        logs := db.logs.insertAll progress.logs }
      return ⟨db, some (Sent.ofLogs campaign.id progress.logs)⟩

end Outreach.Campaigns
