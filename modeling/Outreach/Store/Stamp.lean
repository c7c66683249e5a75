import Outreach.Calendar.Moment
import Outreach.Number.Decimal
import Outreach.Value.Basic

/-!
How columns keep values. Moments keep their clock reading and lose their offset; times that the
database sets itself have whole seconds, and within one second they come before times that were
given to it. Doubles lose the sign of zero, and whole numbers have 64 bits.
-/

namespace Outreach

/-- The time at which a row was made. -/
structure Stamp where
  moment : Moment
  /-- Whether the time was given, with the fraction of its second. -/
  given : Bool
deriving DecidableEq, Repr, Inhabited

namespace Stamp

/-- The time that the database sets. -/
def automatic (now : Moment) : Stamp := ⟨now.wallClock.wholeSeconds, false⟩

def ofMoment (m : Moment) : Stamp := ⟨m.wallClock, true⟩

/-- The place among other times of the same second. -/
def placeInSecond (stamp : Stamp) : Nat :=
  if stamp.given then stamp.moment.time.microsecond + 1 else 0

/-- A number by which times are ordered. -/
def rank (stamp : Stamp) : Int :=
  stamp.moment.wholeSeconds.clock * 2 + stamp.placeInSecond

end Stamp

/-- Whether a whole number fits its column. -/
def fitsColumn (n : Int) : Bool := -(powerOfTwo 63) ≤ n && n < powerOfTwo 63

namespace Binary64

/-- A double as a column keeps it. -/
def stored : Binary64 → Binary64
  | finite negative significand exponent canonical =>
      if significand = 0 then zero false else finite negative significand exponent canonical
  | x => x

/-- Whether one number is below or equal to another. -/
def atMost (x y : Binary64) : Bool :=
  match Decimal.compare? (Decimal.ofBinary64 x) (Decimal.ofBinary64 y) with
  | some .gt | none => false
  | _ => true

end Binary64

end Outreach
