import Outreach.Calendar.Moment
import Outreach.Delivery.Metrics
import Outreach.Schema.Dump
import Outreach.Schema.Vocabulary

/-!
The delivery of one message: its stations, the moves between them, and what a move writes into the
delivery and into the campaign's metrics. A move that is not allowed writes nothing.
-/

namespace Outreach

/-- The stations of a delivery. -/
inductive DeliveryStatus where
  | queued | sent | delivered | failed
deriving DecidableEq, Repr

namespace DeliveryStatus

def word : DeliveryStatus → String
  | queued => "queued"
  | sent => "sent"
  | delivered => "delivered"
  | failed => "failed"

instance : Vocabulary DeliveryStatus where
  all := [queued, sent, delivered, failed]
  word := word
  mem_all status := by cases status <;> decide
  word_injective a b := by cases a <;> cases b <;> simp [word]

/-- The stations that may follow. -/
def next : DeliveryStatus → List DeliveryStatus
  | queued => [failed, sent]
  | sent => [delivered, failed]
  | delivered | failed => []

end DeliveryStatus

/-- What is known of a message's delivery. A status that is missing or empty counts as queued. Until
it is stored a delivery may hold anything. -/
structure Delivery where
  status : Value := .null
  vendorMessageId : Value := .null
  errorDetails : Value := .null
  sentAt : Value := .null
  deliveredAt : Value := .null
deriving Repr, Inhabited

/-- What is reported about a message. -/
structure DeliveryReport where
  status : Value
  errorDetails : Value := .null
  vendorMessageId : Value := .null
deriving Repr

/-- A move that is not allowed. -/
structure RefusedMove where
  current : Value
  wanted : Value
deriving Repr

def RefusedMove.message (move : RefusedMove) : String :=
  "Cannot change delivery status from '" ++ move.current.display ++ "' to '" ++
    move.wanted.display ++ "'"

/-- The text, unless it is empty. -/
def nonempty? (text : Option String) : Option String :=
  text.filter fun s => !s.isEmpty

theorem nonempty?_eq_some_iff {text : Option String} {letters : String} :
    nonempty? text = some letters ↔ text = some letters ∧ letters ≠ "" := by
  simp [nonempty?, Option.filter_eq_some_iff]

namespace Delivery

def current (d : Delivery) : Value :=
  if d.status.isEmpty then Vocabulary.toValue DeliveryStatus.queued else d.status

/-- The station that a value names. -/
def station? (status : Value) : Option DeliveryStatus := status.asText?.bind Vocabulary.ofWord?

/-- The station that a report moves a delivery to, if the move is allowed. -/
def move? (d : Delivery) (report : DeliveryReport) : Option DeliveryStatus := do
  let station ← station? d.current
  let wanted ← station? report.status
  if wanted ∈ station.next then some wanted else none

/-- The value, unless it counts as nothing; then the other. -/
def orKept (value kept : Value) : Value := if value.isEmpty then kept else value

/-- What a move to a station writes. Details that are empty leave the old ones standing. -/
def arrive (now : Moment) (report : DeliveryReport) (station : DeliveryStatus) (d : Delivery) :
    Delivery :=
  let d := { d with
    status := Vocabulary.toValue station
    vendorMessageId := orKept report.vendorMessageId d.vendorMessageId }
  match station with
  | .queued => d
  | .sent => { d with sentAt := .moment now }
  | .delivered => { d with deliveredAt := .moment now }
  | .failed => { d with errorDetails := orKept report.errorDetails d.errorDetails }

/-- Counts a move. A message that failed after it was sent no longer counts as sent. -/
def count {Count : Type} [Counter Count] (before : Value) (station : DeliveryStatus)
    (m : Metrics Count) : Metrics Count :=
  match station with
  | .queued => m
  | .sent => { m with sent := Counter.raise m.sent }
  | .delivered => { m with delivered := Counter.raise m.delivered }
  | .failed =>
      { m with
        failed := Counter.raise m.failed
        sent := if station? before = some .sent then Counter.lower m.sent else m.sent }

/-- A moment as columns keep it. -/
def keptMoment : Value → Value
  | .moment m => .moment m.wallClock
  | value => value

/-- The delivery as columns keep it. -/
def stored (d : Delivery) : Delivery :=
  { d with
    sentAt := keptMoment d.sentAt
    deliveredAt := keptMoment d.deliveredAt }

/-- Moves a delivery as reported and counts the move. -/
def advance {Count : Type} [Counter Count] (now : Moment) (report : DeliveryReport) (d : Delivery)
    (m : Metrics Count) : Except RefusedMove (Delivery × Metrics Count) :=
  match d.move? report with
  | some station => .ok (d.arrive now report station, count d.current station m)
  | none => .error ⟨d.current, report.status⟩

end Delivery

end Outreach
