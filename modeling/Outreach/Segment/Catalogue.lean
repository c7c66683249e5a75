import Outreach.Audience.Membership
import Outreach.Segment.View
import Outreach.Store.Listing
import Outreach.Value.Same

/-!
The catalogue of segments. The audience of a segment is counted when the segment is made, when its
rules change and when a recount is asked for, and never else; where counting fails, nothing is
stored.
-/

namespace Outreach.Segments

open Audience (Failure)

/-- What a failure to find an audience means for a request: errors of the rule engine are told. -/
def haltOf : Failure → Halt
  | .evaluation (.rule e) => .refused (.rule e)
  | .oversizedPage => .failed .oversizedNumber
  | _ => .failed .unforeseen

/-- An audience, or the end of the request. -/
def orHalt {α : Type} (audience : Except Failure α) : Except Halt α := audience.mapError haltOf

/-- The number of customers that match rules as they are stored. -/
def count (settings : Settings) (db : Database) (rules : Value) : Except Halt Nat :=
  orHalt (Audience.count settings.batchSize db.customers [] rules)

def list (db : Database) (page : PageRequest) : Except Halt (Effect (Page SegmentView)) :=
  showPage db page Segment.view? (newestFirst Segment.createdAt db.segments.rows)

def get (db : Database) (id : Int) : Except Halt (Effect SegmentView) := do
  let segment ← db.segments.get .segment id
  return ⟨db, segment.view?⟩

/-- The row of a new segment with its audience. -/
def newRow (now : Moment) (user : Int) (draft : SegmentDraft) (audience : Nat) : Segment where
  id := 0
  name := draft.name
  description := draft.description.getD none
  rules := draft.rules
  estimatedAudience := audience
  lastUpdated := now.wallClock
  createdBy := some user
  createdAt := .automatic now

def create (settings : Settings) (db : Database) (now : Moment) (user : Int)
    (draft : SegmentDraft) : Except Halt (Effect SegmentView) := do
  let audience ← count settings db draft.rules
  let db := { db with segments := db.segments.insert (newRow now user draft audience) }
  return ⟨db, (db.segments.find? db.segments.lastId).bind Segment.view?⟩

/-- Sizes rules without storing them. -/
def preview (settings : Settings) (db : Database) (request : SegmentPreview) :
    Except Halt (Effect Audience.Preview) := do
  let most := request.sampleSize.getD SegmentPreview.defaultSampleSize
  let preview ← orHalt (Audience.preview settings.batchSize db.customers [] request.rules most)
  return ⟨db, some preview⟩

/-- A segment counted anew. -/
def recounted (now : Moment) (audience : Nat) (segment : Segment) : Segment :=
  { segment with estimatedAudience := audience, lastUpdated := now.wallClock }

/-- A segment under other rules, unless they are the same as its own. -/
def withRules (settings : Settings) (db : Database) (now : Moment) (rules : Value)
    (segment : Segment) : Except Halt Segment := do
  if rules.isSame segment.rules then return segment
  let audience ← count settings db rules
  return { recounted now audience segment with rules }

/-- Changes a segment. Rules given as null leave its own. -/
def update (settings : Settings) (db : Database) (now : Moment) (id : Int)
    (change : SegmentChange) : Except Halt (Effect SegmentView) := do
  let segment ← db.segments.get .segment id
  let segment ← match change.rules with
    | .given (some rules) => withRules settings db now rules segment
    | _ => pure segment
  let name ← orFail (change.name.orKept? segment.name)
  let segment := { segment with
    name
    description := change.description.getD segment.description }
  return ⟨{ db with segments := db.segments.replace segment }, segment.view?⟩

/-- Removes a segment that no campaign aims at. -/
def delete (db : Database) (id : Int) : Except Halt (Effect Unit) := do
  let segment ← db.segments.get .segment id
  if db.campaigns.rows.any fun campaign => campaign.segment = id then refuse (.segmentInUse id)
  return ⟨{ db with segments := db.segments.delete segment.id }, some ()⟩

/-- Counts a segment's audience anew, in pages of a size. -/
def recount (size : Int) (db : Database) (now : Moment) (segment : Segment) :
    Except Failure Segment := do
  let audience ← Audience.count size db.customers [] segment.rules
  return recounted now audience segment

def store (db : Database) (segment : Segment) : Database :=
  { db with segments := db.segments.replace segment }

/-- Counts the audience of a stored segment anew. -/
def recompute (settings : Settings) (db : Database) (now : Moment) (id : Int) :
    Except Halt (Effect SegmentView) := do
  let segment ← db.segments.get .segment id
  let segment ← orHalt (recount settings.batchSize db now segment)
  return ⟨store db segment, segment.view?⟩

/-- Whether one customer belongs to a segment. -/
structure Match where
  segment : Int
  customer : Int
  holds : Bool
deriving DecidableEq, Repr

def evaluate (db : Database) (segmentId customerId : Int) : Except Halt (Effect Match) := do
  let segment ← db.segments.get .segment segmentId
  let customer ← db.customers.get .customer customerId
  let holds ← orHalt (Audience.isMember segment.rules customer)
  return ⟨db, some ⟨segment.id, customer.id, holds⟩⟩

end Outreach.Segments
