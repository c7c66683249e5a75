/-!
The delivery counters of a campaign.
-/

namespace Outreach

/-- Counters that hold counts of some kind: whole numbers, unless something else was put there. -/
structure Metrics (Count : Type) where
  sent : Count
  delivered : Count
  opened : Count
  clicked : Count
  bounced : Count
  complained : Count
  unsubscribed : Count
  failed : Count
deriving DecidableEq, Repr

/-- Counts go up and down by one, down to zero at most. -/
class Counter (Count : Type) where
  zero : Count
  raise : Count → Count
  lower : Count → Count

instance : Counter Int where
  zero := 0
  raise n := n + 1
  lower n := max (n - 1) 0

namespace Metrics

variable {Count : Type} [Counter Count]

/-- Counters that have counted nothing. -/
def blank : Metrics Count :=
  ⟨Counter.zero, Counter.zero, Counter.zero, Counter.zero, Counter.zero, Counter.zero,
    Counter.zero, Counter.zero⟩

instance : Inhabited (Metrics Count) := ⟨blank⟩

/-- The counters by name. -/
def counters (m : Metrics Count) : List (String × Count) := [
  ("sent", m.sent), ("delivered", m.delivered), ("opened", m.opened), ("clicked", m.clicked),
  ("bounced", m.bounced), ("complained", m.complained), ("unsubscribed", m.unsubscribed),
  ("failed", m.failed)]

/-- The metrics with the given counters; those left out are zero. -/
def ofCounters (given : List (String × Count)) : Metrics Count :=
  let get (name : String) : Count := (given.lookup name).getD Counter.zero
  { sent := get "sent"
    delivered := get "delivered"
    opened := get "opened"
    clicked := get "clicked"
    bounced := get "bounced"
    complained := get "complained"
    unsubscribed := get "unsubscribed"
    failed := get "failed" }

theorem ofCounters_counters (m : Metrics Count) : ofCounters m.counters = m := rfl

end Metrics

end Outreach
