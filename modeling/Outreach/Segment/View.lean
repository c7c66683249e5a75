import Outreach.Rule.NormalForm
import Outreach.Schema.Dump
import Outreach.Schema.Instant
import Outreach.Schema.Number
import Outreach.Segment.Basic

/-!
Segments as they are submitted, and segments as shown. Submitted rules are read, checked and kept in
normal form, so a draft never holds rules that the rule engine would refuse.
-/

namespace Outreach

/-- Rules in normal form. -/
def Schema.rules (store : ValueStore) : Reader Value := fun written =>
  match Rule.normalForm store written with
  | .ok rules => .accepted rules
  | .error e => .refuse (.refused e.fullMessage)

/-- A new segment. -/
structure SegmentDraft where
  name : String
  description : Entry (Option String)
  rules : Value
deriving Repr

namespace SegmentDraft

open Schema in
def read (store : ValueStore) (origin : Origin) : Reader SegmentDraft :=
  record origin "SegmentCreate" fun given =>
    mk <$> required given "name" (boundedText 1 100)
      <*> permitted given "description" (nullable text)
      <*> required given "rules" (Schema.rules store)

def toValue (style : Style) (draft : SegmentDraft) : Value :=
  .record (
    [("name", .text draft.name)] ++
    style.entry "description" .null (.ofOption .text) draft.description ++
    [("rules", style.anything draft.rules)])

end SegmentDraft

/-- A change to a segment. -/
structure SegmentChange where
  name : Entry (Option String)
  description : Entry (Option String)
  rules : Entry (Option Value)
deriving Repr

namespace SegmentChange

open Schema in
def read (store : ValueStore) (origin : Origin) : Reader SegmentChange :=
  record origin "SegmentUpdate" fun given =>
    mk <$> permitted given "name" (nullable (boundedText 1 100))
      <*> permitted given "description" (nullable text)
      <*> permitted given "rules" (nullable (Schema.rules store))

def toValue (style : Style) (change : SegmentChange) : Value :=
  .record (
    style.entry "name" .null (.ofOption .text) change.name ++
    style.entry "description" .null (.ofOption .text) change.description ++
    style.entry "rules" .null (.ofOption style.anything) change.rules)

end SegmentChange

/-- Rules to be sized without storing them, and how many matching customers to name. -/
structure SegmentPreview where
  rules : Value
  sampleSize : Entry Int
deriving Repr

namespace SegmentPreview

def defaultSampleSize : Int := 10

open Schema in
def read (store : ValueStore) (origin : Origin) : Reader SegmentPreview :=
  record origin "SegmentPreviewRequest" fun given =>
    mk <$> required given "rules" (Schema.rules store)
      <*> permitted given "sample_size" (integerBetween 0 100)

def toValue (style : Style) (preview : SegmentPreview) : Value :=
  .record (
    [("rules", style.anything preview.rules)] ++
    style.entry "sample_size" (.int defaultSampleSize) .int preview.sampleSize)

end SegmentPreview

/-! ### What is shown -/

structure SegmentView where
  id : Int
  name : String
  description : Entry (Option String)
  rules : List (Value × Value)
  estimatedAudience : Entry Int
  lastUpdated : Entry (Option Moment)
  createdBy : Entry (Option Int)
  createdAt : Entry (Option Moment)
deriving Repr

namespace SegmentView

open Schema in
def read : Reader SegmentView :=
  record .request "SegmentResponse" fun given =>
    mk <$> required given "id" integer
      <*> required given "name" text
      <*> permitted given "description" (nullable text)
      <*> required given "rules" mapping
      <*> permitted given "estimated_audience" integer
      <*> permitted given "last_updated" (nullable moment)
      <*> permitted given "created_by_user_id" (nullable integer)
      <*> permitted given "created_at" (nullable moment)

def toValue (style : Style) (view : SegmentView) : Value :=
  .record (
    [("id", .int view.id), ("name", .text view.name)] ++
    style.entry "description" .null (.ofOption .text) view.description ++
    [("rules", style.anything (.dict view.rules))] ++
    style.entry "estimated_audience" (.int 0) .int view.estimatedAudience ++
    style.entry "last_updated" .null (.ofOption style.moment) view.lastUpdated ++
    style.entry "created_by_user_id" .null (.ofOption .int) view.createdBy ++
    style.entry "created_at" .null (.ofOption style.moment) view.createdAt)

end SegmentView

/-- The view of a stored segment. -/
def Segment.view? (segment : Segment) : Option SegmentView :=
  (SegmentView.read (.record segment.columns)).toOption

end Outreach
