import Outreach.Delivery.Log
import Outreach.Value.Same

/-!
Trials of deliveries that are not stored: the columns of the deliveries and the counters of their
campaign may hold anything. A report about one of them moves it on and is counted, is refused, or
comes to grief over what a column holds.
-/

namespace Outreach

namespace Decimal

/-- The sum with a whole number. A number whose last place is far up is not changed by it. -/
def plus (n : Int) : Decimal → Decimal
  | finite negative coefficient exponent =>
      if 28 < exponent then finite negative coefficient exponent
      else
        let least := min exponent 0
        let signed : Int := if negative then -coefficient else coefficient
        let sum := signed * powerOfTen (exponent - least).natAbs + n * powerOfTen least.natAbs
        finite (sum < 0) sum.natAbs least
  | d => d

end Decimal

namespace Value

/-- A count, for which zero stands where nothing was counted. -/
def counted (v : Value) : Value := if v.isEmpty then int 0 else v

/-- The sum with a whole number, if the value is a number. -/
def plus? (n : Int) : Value → Option Value
  | bool b => some (int ((if b then 1 else 0) + n))
  | int m => some (int (m + n))
  | float x => some (float (x.add (Binary64.ofInt n)))
  | decimal d => some (decimal (d.plus n))
  | _ => none

/-- Whether a value is a number below zero. -/
def isNegative (v : Value) : Bool :=
  match v.asNumber? with
  | some d => Decimal.compare? d (Decimal.ofInt 0) == some .lt
  | none => false

def raised? (v : Value) : Option Value := v.counted.plus? 1

def lowered? (v : Value) : Option Value :=
  (v.counted.plus? (-1)).map fun n => if n.isNegative then int 0 else n

instance : Counter Value where
  zero := null
  raise v := v.raised?.getD v
  lower v := v.lowered?.getD v

end Value

namespace Delivery

/-- Whether the counters that a move changes are numbers. -/
def isCountable (before : Value) (station : DeliveryStatus) (m : Metrics Value) : Bool :=
  match station with
  | .queued => true
  | .sent => m.sent.raised?.isSome
  | .delivered => m.delivered.raised?.isSome
  | .failed =>
      m.failed.raised?.isSome && (station? before ≠ some .sent || m.sent.lowered?.isSome)

/-- The delivery of given columns. -/
def ofColumns (given : Columns) : Delivery where
  status := given.get "status"
  vendorMessageId := given.get "vendor_message_id"
  errorDetails := given.get "error_details"
  sentAt := given.get "sent_at"
  deliveredAt := given.get "delivered_at"

/-- Whether a value can be looked up among texts. -/
def isSearchable (v : Value) : Bool :=
  match v with
  | .set _ => true
  | v => v.isHashable

end Delivery

/-- Why a report has no effect, or not all of it. -/
inductive DeliveryFault where
  | refused (move : RefusedMove)
  /-- A status cannot be looked up, or a counter cannot count. -/
  | unusable
deriving Repr

/-- Deliveries on trial, with the counters of their campaign. -/
structure Trial where
  deliveries : List Delivery
  metrics : Metrics Value
deriving Repr

namespace Trial

/-- The place that a number names, counted from the end if it is negative. -/
def place? (trial : Trial) (n : Int) : Option Nat :=
  let place := if n < 0 then n + trial.deliveries.length else n
  if 0 ≤ place ∧ place < trial.deliveries.length then some place.toNat else none

/-- The counters as they are shown. -/
def shownMetrics (trial : Trial) : List (String × Value) :=
  trial.metrics.counters.map fun (name, count) => (name, count.counted)

/-- Reports about the delivery at a place. What a counter cannot count stays uncounted, but the
delivery has moved then. -/
def report (trial : Trial) (now : Moment) (place : Nat) (report : DeliveryReport) :
    Trial × Option DeliveryFault :=
  let d := trial.deliveries.getD place {}
  if !d.current.isHashable || !Delivery.isSearchable report.status then (trial, some .unusable)
  else
    match d.advance now report trial.metrics with
    | .error move => (trial, some (.refused move))
    | .ok (moved, metrics) =>
        let deliveries := trial.deliveries.set place moved
        let isCounted := ((Delivery.station? moved.status).map fun station =>
          Delivery.isCountable d.current station trial.metrics).getD true
        if isCounted then (⟨deliveries, metrics⟩, none)
        else
          let kept := { trial.metrics with failed := metrics.failed }
          (⟨deliveries, kept⟩, some .unusable)

end Trial

end Outreach
