import Outreach.Campaign.View
import Outreach.Store.Listing
import Outreach.Value.Same

/-!
The catalogue of campaigns: listing and history, creation, change and removal. A campaign aims at a
segment that exists, and one that was sent is not changed any more.
-/

namespace Outreach.Campaigns

def list (db : Database) (page : PageRequest) (status : Option String) :
    Except Halt (Effect (Page CampaignView)) :=
  let isListed (campaign : Campaign) : Bool :=
    (nonempty? status).all (Vocabulary.word campaign.status = ·)
  showPage db page Campaign.view?
    (newestFirst Campaign.createdAt (db.campaigns.rows.filter isListed))

def get (db : Database) (id : Int) : Except Halt (Effect CampaignView) := do
  let campaign ← db.campaigns.get .campaign id
  return ⟨db, campaign.view?⟩

/-! ### History -/

/-- The delivery of a campaign in short. -/
structure Summary where
  id : Int
  name : String
  sent : Int
  failed : Int
  total : Int
  /-- When the campaign was made, in milliseconds since the epoch. -/
  timestamp : Int
deriving DecidableEq, Repr

def summary (campaign : Campaign) : Summary where
  id := campaign.id
  name := campaign.name
  sent := campaign.metrics.sent
  failed := campaign.metrics.failed
  total := campaign.metrics.sent + campaign.metrics.failed
  timestamp := Instant.milliseconds campaign.createdAt.moment

/-- The deliveries of the latest campaigns. -/
def history (db : Database) (limit : Int) : Except Halt (Effect (List Summary)) :=
  return ⟨db, some (((newestFirst Campaign.createdAt db.campaigns.rows).take limit.toNat).map
    summary)⟩

/-! ### Creation and removal -/

/-- The row of a new campaign. -/
def newRow (now : Moment) (user : Int) (draft : CampaignDraft) : Campaign where
  id := 0
  name := draft.plan.name
  description := draft.plan.description.getD none
  channel := draft.plan.channel
  status := draft.status.getD CampaignDraft.defaultStatus
  segment := draft.plan.segment
  content := draft.plan.content.toValue {}
  schedule := .ofOption (CampaignSchedule.toValue {}) (draft.plan.schedule.getD none)
  metrics := .blank
  createdBy := some user
  createdAt := .automatic now
  updatedAt := (Stamp.automatic now).moment

def create (db : Database) (now : Moment) (user : Int) (draft : CampaignDraft) :
    Except Halt (Effect CampaignView) := do
  let _ ← db.segments.get .segment draft.plan.segment
  let db := { db with campaigns := db.campaigns.insert (newRow now user draft) }
  return ⟨db, (db.campaigns.find? db.campaigns.lastId).bind Campaign.view?⟩

def delete (db : Database) (id : Int) : Except Halt (Effect Unit) := do
  let campaign ← db.campaigns.get .campaign id
  return ⟨db.deleteCampaign campaign.id, some ()⟩

/-! ### Change -/

/-- How the records of a change are stored: only with the fields that were given. -/
def recordStyle : Style := ⟨true, true⟩

def contentValue (content : Option CampaignContent) : Value :=
  .ofOption (CampaignContent.toValue recordStyle) content

def scheduleValue (schedule : Option CampaignSchedule) : Value :=
  .ofOption (CampaignSchedule.toValue recordStyle) schedule

/-- Whether a change gives something that differs from what is stored. -/
def differs (change : CampaignChange) (row : Campaign) : Bool :=
  change.name.differs (· = some row.name) || change.description.differs (· = row.description) ||
  change.channel.differs (· = some row.channel) || change.status.differs (· = some row.status) ||
  change.segment.differs (· = some row.segment) ||
  change.content.differs (fun content => (contentValue content).isSame row.content) ||
  change.schedule.differs fun schedule => (scheduleValue schedule).isSame row.schedule

/-- The row after a change, if the row can do without what the change takes away. -/
def changed? (now : Moment) (change : CampaignChange) (row : Campaign) : Option Campaign := do
  let name ← change.name.orKept? row.name
  let channel ← change.channel.orKept? row.channel
  let status ← change.status.orKept? row.status
  let segment ← change.segment.orKept? row.segment
  some { row with
    name
    description := change.description.getD row.description
    channel
    status
    segment
    content := (change.content.toOption.map contentValue).getD row.content
    schedule := (change.schedule.toOption.map scheduleValue).getD row.schedule
    updatedAt := if differs change row then (Stamp.automatic now).moment else row.updatedAt }

/-- Refuses a campaign that was sent. -/
def ensureUnsent (campaign : Campaign) : Except Halt Unit :=
  if campaign.status = .completed then refuse (.alreadySent campaign.id) else .ok ()

def update (db : Database) (now : Moment) (id : Int) (change : CampaignChange) :
    Except Halt (Effect CampaignView) := do
  let row ← db.campaigns.get .campaign id
  ensureUnsent row
  match change.segment with
  | .given (some segment) => let _ ← db.segments.get .segment segment
  | _ => pure ()
  let row ← orFail (changed? now change row)
  return ⟨{ db with campaigns := db.campaigns.replace row }, row.view?⟩

end Outreach.Campaigns
