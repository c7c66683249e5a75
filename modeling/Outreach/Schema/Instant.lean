import Outreach.Calendar.Instant
import Outreach.Email.Address
import Outreach.Schema.Number

/-!
Moments and e-mail addresses in data.
-/

namespace Outreach.Schema

/-- What is said where a count, or a text, names no moment. A year zero is found out only where the
moment is built, and then it is said in the same way of both. -/
def momentOf (cause : String → Issue.Cause) (outcome : Except Instant.Refusal Moment) :
    Checked Moment :=
  match outcome with
  | .ok moment => .accepted moment
  | .error .yearZero => .refuse (.unreadableMoment Instant.Refusal.yearZero.reason)
  | .error refusal => .refuse (cause refusal.reason)

/-- The moment of a count given as a double. -/
def momentOfFloat (x : Binary64) : Checked Moment := momentOf .unreadableMoment (Instant.ofFloat x)

/-- The moment that bytes write. They need not be the encoding of a text. -/
def momentOfBytes (bytes : List UInt8) : Checked Moment :=
  momentOf .unreadableDate (Instant.ofText bytes)

def moment : Reader Moment := fun value =>
  match value with
  | .moment m => .accepted m
  | .date d => .accepted (Moment.ofDate d)
  | .int n =>
      if n.natAbs < powerOfTwo 63 then momentOf .unreadableMoment (Instant.ofCount n 0)
      else
        let x := Binary64.ofInt n
        if x.isFinite then momentOfFloat x else .refuse .notMoment
  | .float x => momentOfFloat x
  | .decimal d =>
      match d.toBinary64? with
      | some x => momentOfFloat x
      | none => .refuse .notMoment
  | .bytes bytes => momentOfBytes bytes
  | value =>
      match value.asText? with
      | some text => (wholeText text).andThen fun text => momentOfBytes text.toUTF8.toList
      | none => .refuse .notMoment

def email : Reader String := fun value =>
  (text value).andThen fun text =>
    match Email.ofText text with
    | .ok address => .accepted address
    | .error flaw => .refuse (.invalidEmail flaw.message)

end Outreach.Schema
