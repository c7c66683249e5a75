import Outreach.Proofs.Api.Step
import Outreach.Proofs.Json.Identity

/-! From the body of a request to what an action is told. A body of JSON is read as a document, and
the draft or the change that a task carries out is what the reader of its kind made of the body. -/

namespace Outreach

open Api

/-! ### Bodies -/

theorem jsonContent_isDocument {text : String} {value : Value}
    (read : jsonContent text = .ok value) : IsDocument value := by
  unfold jsonContent at read
  extract_lets stripped at read
  split at read
  next accepted =>
    cases read
    exact Json.read_isDocument accepted
  next => cases read
  next => cases read
  next => cases read

theorem bodyFor_isDocument {task : Task} {request : Http.Request} {value : Value}
    (content : bodyFor task request = .ok (.given value)) : IsDocument value := by
  unfold bodyFor at content
  split at content
  next =>
    have content := mapError_eq_ok_iff.mp content
    unfold contentOf at content
    split at content
    next => cases content
    next =>
      split at content
      next =>
        obtain ⟨found, read, same⟩ := map_eq_ok_iff.mp content
        cases same
        exact jsonContent_isDocument read
      next =>
        cases content
        exact ⟨.text _, keysApart_text _⟩
  next => cases content

/-- The body was read, and this came of it. -/
def Api.Input.Yields {α : Type} (input : Input) (reader : Reader α) (result : α) : Prop :=
  ∃ value, input.body = .given value ∧ reader value = .accepted result

theorem content_accepted {α : Type} {input : Input} {reader : Reader α} {result : α}
    (read : input.content reader = .accepted result) : input.Yields reader result := by
  unfold Input.content at read
  split at read
  next => cases read
  next value given => exact ⟨value, given, Checked.under_eq_accepted_iff.mp read⟩

theorem content_of_yields {α : Type} {input : Input} {reader : Reader α} {result : α}
    (yields : input.Yields reader result) : input.content reader = .accepted result := by
  obtain ⟨value, given, read⟩ := yields
  unfold Input.content
  rw [given]
  exact Checked.under_eq_accepted_iff.mpr read

/-! ### Tasks -/

/-- What an action is told in the body of its request comes from the body. -/
def Api.Action.IsToldBy (input : Input) : Action → Prop
  | createCustomer draft => input.Yields (CustomerDraft.read .request) draft
  | importCustomers payload => input.Yields Schema.anything payload
  | updateCustomer _ change => input.Yields (CustomerChange.read .request) change
  | createOrder draft => input.Yields (OrderDraft.read .request) draft
  | createSegment draft => input.Yields (SegmentDraft.read [] .request) draft
  | previewSegment request => input.Yields (SegmentPreview.read [] .request) request
  | updateSegment _ change => input.Yields (SegmentChange.read [] .request) change
  | createCampaign draft => input.Yields (CampaignDraft.read .request) draft
  | updateCampaign _ change => input.Yields (CampaignChange.read .request) change
  | recordReceipt _ receipt => input.Yields (DeliveryReceipt.read .request) receipt
  | _ => True

theorem told_of_read {task : Task} {input : Input} {action : Action}
    (read : task.read input = .accepted action) : action.IsToldBy input := by
  cases task with
  | createCustomer | importCustomers | createOrder | createSegment | previewSegment
  | createCampaign =>
    obtain ⟨found, accepted, rfl⟩ := Checked.map_eq_accepted_iff.mp read
    exact content_accepted accepted
  | updateCustomer | updateSegment | updateCampaign | recordReceipt =>
    obtain ⟨f, found, named, accepted, rfl⟩ := Checked.seq_eq_accepted_iff.mp read
    obtain ⟨number, -, rfl⟩ := Checked.map_eq_accepted_iff.mp named
    exact content_accepted accepted
  | me =>
    cases read
    trivial
  | listOrders | evaluateSegment | listCampaigns =>
    obtain ⟨f, found, named, -, rfl⟩ := Checked.seq_eq_accepted_iff.mp read
    obtain ⟨first, -, rfl⟩ := Checked.map_eq_accepted_iff.mp named
    trivial
  | _ =>
    obtain ⟨found, -, rfl⟩ := Checked.map_eq_accepted_iff.mp read
    trivial

end Outreach
