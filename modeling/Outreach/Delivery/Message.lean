import Outreach.Customer.Profile
import Outreach.Delivery.Status
import Outreach.Text.Pattern

/-!
The message a campaign sends to a customer: its text, with the placeholders of the campaign's body
filled in, and the outcome of handing it to the campaign's channel.
-/

namespace Outreach

namespace Message

def namePlaceholder : List Char := "\x7b\x7bname\x7d\x7d".toList

def emailPlaceholder : List Char := "\x7b\x7bemail\x7d\x7d".toList

/-- Fills in the name first and then the e-mail address, which therefore also goes where the name
writes its placeholder. -/
def fill (name email body : List Char) : List Char :=
  Text.replaceAll emailPlaceholder email (Text.replaceAll namePlaceholder name body)

/-- Why there is no message. -/
inductive Fault where
  /-- The campaign's content is neither empty nor a mapping. -/
  | contentKind
  /-- The body cannot be filled in. -/
  | bodyKind
  /-- The body is of a kind that has replacements of its own. -/
  | bodyReplacement
  /-- A customer's name or address is no text. -/
  | detailKind
deriving DecidableEq, Repr

/-- The body of a campaign's content; content that counts as nothing has an empty body. -/
def body (content : Value) : Except Fault (List Char) :=
  if content.isEmpty then .ok []
  else match content with
    | .dict entries =>
        match Value.lookup entries "body" with
        | none => .ok []
        | some (.bytes _) | some (.date _) | some (.moment _) => .error .bodyReplacement
        | some value =>
            match value.asText? with
            | some text => .ok text.toList
            | none => .error .bodyKind
    | _ => .error .contentKind

/-- A customer's detail as it is filled in; one that counts as nothing is empty. -/
def detail (value : Value) : Except Fault (List Char) :=
  if value.isEmpty then .ok []
  else match value.asText? with
    | some text => .ok text.toList
    | none => .error .detailKind

/-- The message for a customer. -/
def render (content : Value) (customer : Profile) : Except Fault String := do
  let body ← body content
  let name ← detail customer.name
  let email ← detail customer.email
  .ok (String.ofList (fill name email body))

/-- The outcome of handing a message to a channel. -/
structure Handover where
  status : DeliveryStatus
  errorDetails : Option String
deriving DecidableEq, Repr

/-- E-mail needs an address and text messages a phone number; other channels need nothing. -/
def handOver (channel : Option String) (customer : Profile) : Handover :=
  if channel = some "email" ∧ customer.email.isEmpty then
    ⟨.failed, some "Customer has no email address"⟩
  else if channel = some "sms" ∧ customer.phone.isEmpty then
    ⟨.failed, some "Customer has no phone number"⟩
  else ⟨.sent, none⟩

end Message

end Outreach
