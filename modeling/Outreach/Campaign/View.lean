import Outreach.Campaign.Basic
import Outreach.Schema.Dump
import Outreach.Schema.Instant

/-!
Campaigns as they are submitted: what is sent, when, over which channel and to which segment.
Campaigns as shown, with their delivery counters gathered in one record.
-/

namespace Outreach

/-- What a campaign sends. -/
structure CampaignContent where
  subject : Entry (Option String)
  body : String
  template : Entry (Option String)
  attachments : Entry (List String)
deriving Repr

namespace CampaignContent

/-- Text with at least one character. -/
def bodyText : Reader String := fun value =>
  (Schema.text value).andThen fun text =>
    if text.isEmpty then .refuse (.tooShort 1) else .accepted text

open Schema in
def read (origin : Origin) : Reader CampaignContent :=
  record origin "CampaignContent" fun given =>
    mk <$> permitted given "subject" (nullable text)
      <*> required given "body" bodyText
      <*> permitted given "template" (nullable text)
      <*> permitted given "attachments" (list text)

def toValue (style : Style) (content : CampaignContent) : Value :=
  .record (
    style.entry "subject" .null (.ofOption .text) content.subject ++
    [("body", .text content.body)] ++
    style.entry "template" .null (.ofOption .text) content.template ++
    style.entry "attachments" (.list []) .ofTexts content.attachments)

end CampaignContent

/-- When a campaign is sent. -/
structure CampaignSchedule where
  startDate : Entry (Option Moment)
  endDate : Entry (Option Moment)
  frequency : Entry (Option Frequency)
  timezone : Entry (Option String)
deriving Repr

namespace CampaignSchedule

open Schema in
def read (origin : Origin) : Reader CampaignSchedule :=
  record origin "CampaignSchedule" fun given =>
    mk <$> permitted given "start_date" (nullable moment)
      <*> permitted given "end_date" (nullable moment)
      <*> permitted given "frequency" (nullable Vocabulary.read)
      <*> permitted given "timezone" (nullable text)

def toValue (style : Style) (schedule : CampaignSchedule) : Value :=
  .record (
    style.entry "start_date" .null (.ofOption style.moment) schedule.startDate ++
    style.entry "end_date" .null (.ofOption style.moment) schedule.endDate ++
    style.entry "frequency" .null (.ofOption Vocabulary.toValue) schedule.frequency ++
    style.entry "timezone" .null (.ofOption .text) schedule.timezone)

end CampaignSchedule

/-- What a campaign is, its stage apart. -/
structure CampaignPlan where
  name : String
  description : Entry (Option String)
  channel : Channel
  segment : Int
  content : CampaignContent
  schedule : Entry (Option CampaignSchedule)
deriving Repr

namespace CampaignPlan

open Schema in
def ofFields (origin : Origin) (given : List (Value × Value)) : Checked CampaignPlan :=
  mk <$> required given "name" (boundedText 1 255)
    <*> permitted given "description" (nullable text)
    <*> required given "type" Vocabulary.read
    <*> required given "segment_id" integer
    <*> required given "content" (CampaignContent.read origin)
    <*> permitted given "schedule" (nullable (CampaignSchedule.read origin))

def fields (style : Style) (plan : CampaignPlan) : List (String × Value) :=
  [("name", .text plan.name)] ++
  style.entry "description" .null (.ofOption .text) plan.description ++
  [("type", Vocabulary.toValue plan.channel), ("segment_id", .int plan.segment),
    ("content", plan.content.toValue style)] ++
  style.entry "schedule" .null (.ofOption (CampaignSchedule.toValue style)) plan.schedule

end CampaignPlan

/-- A new campaign. -/
structure CampaignDraft where
  plan : CampaignPlan
  status : Entry CampaignStatus
deriving Repr

namespace CampaignDraft

/-- The stage of a campaign that is given none. -/
def defaultStatus : CampaignStatus := .draft

open Schema in
def read (origin : Origin) : Reader CampaignDraft :=
  record origin "CampaignCreate" fun given =>
    mk <$> CampaignPlan.ofFields origin given
      <*> permitted given "status" Vocabulary.read

def toValue (style : Style) (draft : CampaignDraft) : Value :=
  .record (
    draft.plan.fields style ++
    style.entry "status" (Vocabulary.toValue defaultStatus) Vocabulary.toValue
      draft.status)

end CampaignDraft

/-- A change to a campaign. -/
structure CampaignChange where
  name : Entry (Option String)
  description : Entry (Option String)
  channel : Entry (Option Channel)
  status : Entry (Option CampaignStatus)
  segment : Entry (Option Int)
  content : Entry (Option CampaignContent)
  schedule : Entry (Option CampaignSchedule)
deriving Repr

namespace CampaignChange

open Schema in
def read (origin : Origin) : Reader CampaignChange :=
  record origin "CampaignUpdate" fun given =>
    mk <$> permitted given "name" (nullable (boundedText 1 255))
      <*> permitted given "description" (nullable text)
      <*> permitted given "type" (nullable Vocabulary.read)
      <*> permitted given "status" (nullable Vocabulary.read)
      <*> permitted given "segment_id" (nullable integer)
      <*> permitted given "content" (nullable (CampaignContent.read origin))
      <*> permitted given "schedule" (nullable (CampaignSchedule.read origin))

def toValue (style : Style) (change : CampaignChange) : Value :=
  .record (
    style.entry "name" .null (.ofOption .text) change.name ++
    style.entry "description" .null (.ofOption .text) change.description ++
    style.entry "type" .null (.ofOption Vocabulary.toValue) change.channel ++
    style.entry "status" .null (.ofOption Vocabulary.toValue) change.status ++
    style.entry "segment_id" .null (.ofOption .int) change.segment ++
    style.entry "content" .null (.ofOption (CampaignContent.toValue style)) change.content ++
    style.entry "schedule" .null (.ofOption (CampaignSchedule.toValue style)) change.schedule)

end CampaignChange

/-! ### What is shown -/

namespace Metrics

open Schema in
def read : Reader (Metrics Int) :=
  record .data "CampaignMetrics" fun given =>
    let counter (name : String) : Checked Int := (permitted given name integer).map (Entry.getD 0)
    mk <$> counter "sent" <*> counter "delivered" <*> counter "opened" <*> counter "clicked"
      <*> counter "bounced" <*> counter "complained" <*> counter "unsubscribed"
      <*> counter "failed"

def toValue (metrics : Metrics Int) : Value :=
  .record (metrics.counters.map fun (name, count) => (name, .int count))

end Metrics

structure CampaignView where
  plan : CampaignPlan
  id : Int
  status : CampaignStatus
  metrics : Metrics Int
  createdBy : Entry (Option Int)
  createdAt : Entry (Option Moment)
  updatedAt : Entry (Option Moment)
deriving Repr

namespace CampaignView

open Schema in
def read : Reader CampaignView :=
  record .request "CampaignResponse" fun given =>
    mk <$> CampaignPlan.ofFields .data given
      <*> required given "id" integer
      <*> required given "status" Vocabulary.read
      <*> required given "metrics" Metrics.read
      <*> permitted given "created_by_user_id" (nullable integer)
      <*> permitted given "created_at" (nullable moment)
      <*> permitted given "updated_at" (nullable moment)

def toValue (style : Style) (view : CampaignView) : Value :=
  .record (
    view.plan.fields style ++
    [("id", .int view.id), ("status", Vocabulary.toValue view.status),
      ("metrics", view.metrics.toValue)] ++
    style.entry "created_by_user_id" .null (.ofOption .int) view.createdBy ++
    style.entry "created_at" .null (.ofOption style.moment) view.createdAt ++
    style.entry "updated_at" .null (.ofOption style.moment) view.updatedAt)

end CampaignView

/-- The view of a stored campaign. -/
def Campaign.view? (campaign : Campaign) : Option CampaignView :=
  (CampaignView.read
    (.record (campaign.mainColumns ++ [("metrics", campaign.metrics.toValue)]))).toOption

end Outreach
