import Outreach.Delivery.Metrics
import Outreach.Schema.Dump
import Outreach.Schema.Vocabulary
import Outreach.Store.Column
import Outreach.Store.Table

/-!
Stored campaigns, with their channels, the stages that they go through, and how often they are sent.
-/

namespace Outreach

inductive Channel where
  | email | sms | push
deriving DecidableEq, Repr, Inhabited

instance : Vocabulary Channel where
  all := [.email, .sms, .push]
  word
    | .email => "email"
    | .sms => "sms"
    | .push => "push"
  mem_all channel := by cases channel <;> decide
  word_injective a b := by cases a <;> cases b <;> simp

inductive CampaignStatus where
  | draft | scheduled | active | completed | paused
deriving DecidableEq, Repr, Inhabited

instance : Vocabulary CampaignStatus where
  all := [.draft, .scheduled, .active, .completed, .paused]
  word
    | .draft => "draft"
    | .scheduled => "scheduled"
    | .active => "active"
    | .completed => "completed"
    | .paused => "paused"
  mem_all status := by cases status <;> decide
  word_injective a b := by cases a <;> cases b <;> simp

inductive Frequency where
  | once | daily | weekly | monthly
deriving DecidableEq, Repr, Inhabited

instance : Vocabulary Frequency where
  all := [.once, .daily, .weekly, .monthly]
  word
    | .once => "once"
    | .daily => "daily"
    | .weekly => "weekly"
    | .monthly => "monthly"
  mem_all frequency := by cases frequency <;> decide
  word_injective a b := by cases a <;> cases b <;> simp

structure Campaign where
  id : Int
  name : String
  description : Option String
  channel : Channel
  status : CampaignStatus
  segment : Int
  content : Value
  schedule : Value
  metrics : Metrics Int
  createdBy : Option Int
  createdAt : Stamp
  updatedAt : Moment
deriving Repr, Inhabited

namespace Campaign

instance : Row Campaign where
  id := Campaign.id
  withId n campaign := { campaign with id := n }
  id_withId _ _ := rfl

/-- The columns other than the counters. -/
def mainColumns (c : Campaign) : Columns := [
  ("id", .int c.id), ("name", .text c.name), ("description", .ofOption .text c.description),
  ("type", Vocabulary.toValue c.channel), ("status", Vocabulary.toValue c.status),
  ("segment_id", .int c.segment), ("content", c.content), ("schedule", c.schedule),
  ("created_by_user_id", .ofOption .int c.createdBy), ("created_at", .moment c.createdAt.moment),
  ("updated_at", .moment c.updatedAt)]

def counterColumns (c : Campaign) : Columns :=
  c.metrics.counters.map fun (name, count) => (name, .int count)

def columns (c : Campaign) : Columns := c.mainColumns ++ c.counterColumns

/-- The row of given columns, without a number of its own. -/
def ofColumns? (now : Moment) (given : Columns) : Option Campaign := do
  let name ← given.text? "name"
  let channel ← (given.text? "type").bind Vocabulary.ofWord?
  let status ← given.wordOr? "status" .draft
  let segment ← given.int? "segment_id"
  some {
    id := 0
    name
    description := given.text? "description"
    channel
    status
    segment
    content := given.jsonOr "content" .null
    schedule := given.jsonOr "schedule" .null
    metrics := Metrics.ofCounters
      ((default : Metrics Int).counters.map fun (name, _) => (name, given.intOr name 0))
    createdBy := given.int? "created_by_user_id"
    createdAt := given.stampOr "created_at" now
    updatedAt := given.momentOr "updated_at" now }

end Campaign

end Outreach
