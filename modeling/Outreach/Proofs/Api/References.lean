import Outreach.Proofs.Api.Refused
import Outreach.Proofs.Campaign.Sending
import Outreach.Proofs.Email.Plain
import Outreach.Proofs.Store.Table

/-! No row refers to one that is not there. The tables do not see to this themselves: it holds because
what is new is tied to what was found, because a segment in use is not taken away, and because a
customer and a campaign are taken away with all that belongs to them. So numbers that are given out
again are never taken for the old ones. -/

namespace Outreach

open Api

/-- Orders and messages refer to customers that are there, messages to campaigns, campaigns to
segments, and what users have made to users. -/
structure HasReferences (db : Database) : Prop where
  buyers : db.orders.Refers (fun order => some order.customer) db.customers
  senders : db.logs.Refers (fun log => some log.campaign) db.campaigns
  recipients : db.logs.Refers (fun log => some log.customer) db.customers
  aims : db.campaigns.Refers (fun campaign => some campaign.segment) db.segments
  segmentMakers : db.segments.Refers Segment.createdBy db.users
  campaignMakers : db.campaigns.Refers Campaign.createdBy db.users

/-! ### Customers -/

theorem Audience.scanFrom_stored (size last : Int) (tables : List (Table Customer)) :
    ∀ customer ∈ (scanFrom size last tables).customers, ∃ table ∈ tables,
      customer ∈ table.rows := by
  intro customer member
  induction tables generalizing last with
  | nil => cases member
  | cons table tables ih =>
    have here {other : Customer} (among : other ∈ later last table) :
        ∃ state ∈ table :: tables, other ∈ state.rows :=
      ⟨table, List.mem_cons_self .., (mem_later_iff.mp among).1⟩
    rcases scanFrom_step size last table tables with
      ⟨step, -⟩ | ⟨-, step, -⟩ | ⟨front, final, split, step, -⟩ <;> rw [step] at member
    · exact here member
    · cases member
    · rcases List.mem_append.mp member with before | after
      · exact here (split ▸ List.mem_append_left _ before)
      · rcases List.mem_cons.mp after with rfl | later
        · exact here (by simp [split])
        · obtain ⟨state, among, stored⟩ := ih final.id later
          exact ⟨state, List.mem_cons_of_mem _ among, stored⟩

/-- Whoever is met among the members of an audience is in the table. -/
theorem Audience.members_stored (size : Int) (table : Table Customer) (written : Value) :
    ∀ member ∈ (members size table [] written unlimited).found,
      member.customer ∈ table.rows := by
  intro member among
  unfold members at among
  split at among
  next => cases among
  next => cases among
  next rule scanned _ paged =>
    unfold customersOf at paged
    split at paged
    next =>
      cases paged
      have within := membersFrom_sublist rule (scan size table).ending 0 (scan size table).customers
      have met := within.subset (List.mem_map_of_mem among)
      obtain ⟨state, isTable, stored⟩ := scanFrom_stored size 0 _ _ met
      rwa [List.eq_of_mem_replicate isTable] at stored
    next => cases paged

section
variable {env : Environment} {db written : Database} {user : User} {action : Action}

/-- A customer is taken away only with all orders and messages. -/
theorem customer_kept (write : Write env db user action written) {id : Int}
    (has : db.customers.Has id) :
    written.customers.Has id ∨
      (∀ order ∈ written.orders.rows, order.customer ≠ id) ∧
        ∀ log ∈ written.logs.rows, log.customer ≠ id := by
  cases write with
  | createCustomer | importCustomers => exact .inl (has.insertAll _)
  | updateCustomer | createOrder => exact .inl (has.replace _)
  | @deleteCustomer gone row found =>
    by_cases own : id = gone
    · right
      subst own
      constructor
      · intro order member
        simpa using (Table.mem_deleteWhere_iff.mp member).2
      · intro log member
        simpa using (Table.mem_deleteWhere_iff.mp member).2
    · exact .inl (has.delete own)
  | createSegment | updateSegment | deleteSegment | recomputeSegment | createCampaign
  | updateCampaign | deleteCampaign | sendCampaign | recordReceipt => exact .inl has

/-- A new order is one of a customer that was found. -/
theorem order_origin (write : Write env db user action written) :
    ∀ order ∈ written.orders.rows, order ∈ db.orders.rows ∨ db.customers.Has order.customer := by
  intro order member
  cases write with
  | createOrder found free fits =>
    rcases Table.mem_insert_iff.mp member with old | rfl
    · exact .inl old
    · exact .inr (Table.has_of_find? found)
  | deleteCustomer found => exact .inl (Table.mem_deleteWhere_iff.mp member).1
  | createCustomer | importCustomers | updateCustomer | createSegment | updateSegment
  | deleteSegment | recomputeSegment | createCampaign | updateCampaign | deleteCampaign
  | sendCampaign | recordReceipt => exact .inl member

/-- A new message goes to a customer who was met in the audience. -/
theorem recipient_origin (write : Write env db user action written) :
    ∀ log ∈ written.logs.rows, (∃ old ∈ db.logs.rows, old.customer = log.customer) ∨
      db.customers.Has log.customer := by
  intro log member
  cases write with
  | @sendCampaign id campaign segment progress found unsent aimed complete sent =>
    rcases Campaigns.sendToAll_cases env.now campaign env.vendorIds
      (Campaigns.audience env.settings db segment).found 0 ⟨[], campaign.metrics⟩ with
      failed | ⟨fresh, metrics, addressed, made⟩
    · cases failed.symm.trans sent
    · cases made.symm.trans sent
      rcases Table.mem_insertAll member with old | ⟨new, isFresh, n, rfl⟩
      · exact .inl ⟨log, old, rfl⟩
      · right
        have address : new.address ∈ fresh.map MessageLog.address := List.mem_map_of_mem isFresh
        rw [address_of_addressed addressed, List.map_map] at address
        obtain ⟨recipient, among, pair⟩ := List.mem_map.mp address
        have stored := Audience.members_stored _ _ _ recipient among
        exact ⟨recipient.customer, stored, congrArg Prod.snd pair⟩
  | @recordReceipt message receipt log campaign delivery metrics found owner moved =>
    rcases Table.mem_replace_iff.mp member with ⟨old, -⟩ | ⟨rfl, -⟩
    · exact .inl ⟨_, old, rfl⟩
    · exact .inl ⟨log, (Table.find?_eq_some_iff.mp found).1, rfl⟩
  | deleteCustomer | deleteCampaign =>
    exact .inl ⟨log, (Table.mem_deleteWhere_iff.mp member).1, rfl⟩
  | createCustomer | importCustomers | updateCustomer | createOrder | createSegment
  | updateSegment | deleteSegment | recomputeSegment | createCampaign | updateCampaign =>
    exact .inl ⟨log, member, rfl⟩

/-! ### Those who made what is there -/

theorem write_users (write : Write env db user action written) : written.users = db.users := by
  cases write <;> rfl

/-- A segment keeps its maker; a new one is made by the user who asks for it. -/
theorem segment_maker (write : Write env db user action written) :
    ∀ segment ∈ written.segments.rows,
      (∃ old ∈ db.segments.rows, old.createdBy = segment.createdBy) ∨
        segment.createdBy = some user.id := by
  intro segment member
  cases write with
  | createSegment counted =>
    rcases Table.mem_insert_iff.mp member with old | rfl
    · exact .inl ⟨segment, old, rfl⟩
    · exact .inr rfl
  | @updateSegment id change row ruled name found kept given named =>
    rcases Table.mem_replace_iff.mp member with ⟨old, -⟩ | ⟨rfl, -⟩
    · exact .inl ⟨segment, old, rfl⟩
    · refine .inl ⟨row, (Table.find?_eq_some_iff.mp found).1, ?_⟩
      rcases Segments.ruled_cases kept given with rfl | ⟨rules, audience, -, -, -, rfl⟩ <;> rfl
  | @recomputeSegment id row counted found recounted =>
    rcases Table.mem_replace_iff.mp member with ⟨old, -⟩ | ⟨rfl, -⟩
    · exact .inl ⟨segment, old, rfl⟩
    · obtain ⟨audience, -, rfl⟩ := Segments.recount_ok recounted
      exact .inl ⟨row, (Table.find?_eq_some_iff.mp found).1, rfl⟩
  | deleteSegment found unused => exact .inl ⟨segment, (Table.mem_delete_iff.mp member).1, rfl⟩
  | createCustomer | importCustomers | updateCustomer | deleteCustomer | createOrder
  | createCampaign | updateCampaign | deleteCampaign | sendCampaign | recordReceipt =>
    exact .inl ⟨segment, member, rfl⟩

/-- A campaign keeps its maker; a new one is made by the user who asks for it. -/
theorem campaign_maker (write : Write env db user action written) :
    ∀ campaign ∈ written.campaigns.rows,
      (∃ old ∈ db.campaigns.rows, old.createdBy = campaign.createdBy) ∨
        campaign.createdBy = some user.id := by
  intro campaign member
  cases write with
  | createCampaign aimed =>
    rcases Table.mem_insert_iff.mp member with old | rfl
    · exact .inl ⟨campaign, old, rfl⟩
    · exact .inr rfl
  | @updateCampaign id change row changed found unsent aimed made =>
    rcases Table.mem_replace_iff.mp member with ⟨old, -⟩ | ⟨rfl, -⟩
    · exact .inl ⟨campaign, old, rfl⟩
    · exact .inl ⟨row, (Table.find?_eq_some_iff.mp found).1,
        (Campaigns.changed?_makes made).createdBy.symm⟩
  | @sendCampaign id row segment progress found unsent aimed complete sent =>
    rcases Table.mem_replace_iff.mp member with ⟨old, -⟩ | ⟨rfl, -⟩
    · exact .inl ⟨campaign, old, rfl⟩
    · exact .inl ⟨row, (Table.find?_eq_some_iff.mp found).1, rfl⟩
  | @recordReceipt message receipt log row delivery metrics found owner moved =>
    rcases Table.mem_replace_iff.mp member with ⟨old, -⟩ | ⟨rfl, -⟩
    · exact .inl ⟨campaign, old, rfl⟩
    · exact .inl ⟨row, (Table.find?_eq_some_iff.mp owner).1, rfl⟩
  | deleteCampaign found => exact .inl ⟨campaign, (Table.mem_delete_iff.mp member).1, rfl⟩
  | createCustomer | importCustomers | updateCustomer | deleteCustomer | createOrder
  | createSegment | updateSegment | deleteSegment | recomputeSegment =>
    exact .inl ⟨campaign, member, rfl⟩

/-- Whoever is signed in is a stored user. -/
theorem authenticate_stored {request : Http.Request}
    (signedIn : authenticate env db request = .ok user) : db.users.Has user.id := by
  unfold authenticate at signedIn
  split at signedIn
  next => cases signedIn
  next token _ =>
    obtain ⟨id, -, rest⟩ := bind_eq_ok_iff.mp signedIn
    obtain ⟨_, -, rest⟩ := bind_eq_ok_iff.mp rest
    split at rest
    next found =>
      cases rest
      exact Table.has_of_mem (Table.find?_eq_some_iff.mp found).1
    next => cases rest

end

/-! ### Runs -/

/-- Orders and messages refer to customers that are there. -/
structure HasCustomers (db : Database) : Prop where
  buyers : db.orders.Refers (fun order => some order.customer) db.customers
  recipients : db.logs.Refers (fun log => some log.customer) db.customers

theorem hasCustomers_kept : IsKept HasCustomers where
  users _ _ before := ⟨before.buyers, before.recipients⟩
  writes env db request user action written before carries write := by
    have buyers : written.orders.Refers (fun order => some order.customer) db.customers := by
      refine before.buyers.of_origin fun order member => ?_
      rcases order_origin write order member with old | there
      · exact .inl ⟨order, old, rfl⟩
      · exact .inr fun id named => Option.some.inj named ▸ there
    have recipients : written.logs.Refers (fun log => some log.customer) db.customers := by
      refine before.recipients.of_origin fun log member => ?_
      rcases recipient_origin write log member with ⟨old, among, same⟩ | there
      · exact .inl ⟨old, among, congrArg some same⟩
      · exact .inr fun id named => Option.some.inj named ▸ there
    constructor
    · intro order member id named
      rcases customer_kept write (buyers order member id named) with stays | ⟨unbought, -⟩
      · exact stays
      · exact absurd (Option.some.inj named) (unbought order member)
    · intro log member id named
      rcases customer_kept write (recipients log member id named) with stays | ⟨-, unwritten⟩
      · exact stays
      · exact absurd (Option.some.inj named) (unwritten log member)

/-- Segments and campaigns were made by users who are there. -/
structure HasMakers (db : Database) : Prop where
  segments : db.segments.Refers Segment.createdBy db.users
  campaigns : db.campaigns.Refers Campaign.createdBy db.users

theorem HasMakers.change {env : Environment} {db written : Database} {request : Http.Request}
    (before : HasMakers db) (change : Change env db request written) : HasMakers written := by
  cases change with
  | nothing => exact before
  | signIn upserted =>
    have stay (id : Int) (has : db.users.Has id) := (Users.upsert_isStored upserted).kept has
    obtain ⟨users, rfl⟩ := upsert_users upserted
    exact ⟨before.segments.kept stay, before.campaigns.kept stay⟩
  | @action user action written carries write =>
    have maker := authenticate_stored carries.signedIn
    have here (id : Int) (named : some user.id = some id) : db.users.Has id :=
      Option.some.inj named ▸ maker
    constructor
    · rw [write_users write]
      refine before.segments.of_origin fun segment member => ?_
      refine (segment_maker write segment member).imp_right fun made id named => here id ?_
      rw [← made, named]
    · rw [write_users write]
      refine before.campaigns.of_origin fun campaign member => ?_
      refine (campaign_maker write campaign member).imp_right fun made id named => here id ?_
      rw [← made, named]

/-- No row refers to one that is not there, whatever requests have led to. -/
theorem Api.IsReachable.references {db : Database} (reachable : IsReachable db) :
    HasReferences db := by
  have ready := reachable.canSend
  obtain ⟨start, visits, empty, rfl⟩ := reachable
  have customers : HasCustomers (run start visits) := by
    refine hasCustomers_kept.run ⟨?_, ?_⟩ visits
    · exact Table.refers_nil empty.orders
    · exact Table.refers_nil empty.logs
  have makers : HasMakers (run start visits) := by
    refine run_kept (fun _ _ _ _ => HasMakers.change) ⟨?_, ?_⟩ visits
    · exact Table.refers_nil empty.segments
    · exact Table.refers_nil empty.campaigns
  exact {
    buyers := customers.buyers
    senders := by
      rintro log member _ ⟨⟩
      obtain ⟨campaign, stored, owner, -⟩ := ready.writes.sent log member
      exact ⟨campaign, stored, owner⟩
    recipients := customers.recipients
    aims := by
      rintro campaign member _ ⟨⟩
      exact ready.aims campaign member
    segmentMakers := makers.segments
    campaignMakers := makers.campaigns }

/-! ### What requests rely on -/

section
variable {db : Database} {now : Moment} {id : Int}

theorem tell_refused {α : Type} {status : Nat} {write : α → Value}
    {outcome : Except Halt (Effect α)} {halt : Halt}
    (refused : tell status write outcome = .error halt) : outcome = .error halt := by
  cases outcome with
  | ok effect => cases refused
  | error cause =>
    cases refused
    rfl

/-- Sending looks for two things only, the campaign and its segment. -/
theorem send_unfound {settings : Settings} {vendorIds : Nat → String} {refusal : Refusal}
    (refused : Campaigns.send settings db now vendorIds id = .error (.refused refusal))
    (unfound : refusal.status = 404) :
    db.campaigns.find? id = none ∨ ∃ campaign, db.campaigns.find? id = some campaign ∧
      db.segments.find? campaign.segment = none := by
  rcases send_refused refused with missing | ⟨campaign, got, sent | missing | ⟨e, same⟩⟩
  · exact .inl (Table.get_refused missing).1
  · rw [sent] at unfound
    cases unfound
  · have found := (Table.get_eq_ok_iff.mp got).2
    exact .inr ⟨campaign, found, (Table.get_refused missing).1⟩
  · rw [same] at unfound
    cases unfound

/-- What becomes of a receipt for a message of a campaign: the move is refused, a counter would
outgrow its column, or the message is moved on and the campaign has counted it. -/
inductive Tracking.IsFollowed (db : Database) (now : Moment) (log : MessageLog)
    (campaign : Campaign) : Except Halt (Effect MessageView) → Prop where
  | refused (move : RefusedMove) :
      Tracking.IsFollowed db now log campaign (.error (.refused (.refusedMove move)))
  | oversized : Tracking.IsFollowed db now log campaign (.error (.failed .oversizedNumber))
  | moved (delivery : Delivery) (metrics : Metrics Int) (answer : Option MessageView) :
      Tracking.IsFollowed db now log campaign (.ok ⟨{ db with
        logs := db.logs.replace { log with delivery }
        campaigns := db.campaigns.replace (Tracking.recounted now metrics campaign) }, answer⟩)

/-- A receipt for a message whose campaign is there never fails to find the campaign. -/
theorem record_followed {log : MessageLog} {campaign : Campaign} (receipt : DeliveryReceipt)
    (found : db.logs.find? id = some log)
    (owner : db.campaigns.find? log.campaign = some campaign) :
    Tracking.IsFollowed db now log campaign (Tracking.record db now id receipt) := by
  by_cases fits : fitsColumn id
  case neg =>
    have lost : db.logs.get .message id = .error (.failed .oversizedNumber) := by
      rw [Table.get, if_neg fits]
      rfl
    rw [Tracking.record, lost]
    exact .oversized
  have got : db.logs.get .message id = .ok log := Table.get_eq_ok_iff.mpr ⟨fits, found⟩
  unfold Tracking.record
  rw [got]
  dsimp only [bind, Except.bind]
  rw [owner]
  cases moved : log.delivery.advance now receipt.report campaign.metrics with
  | error move => simpa [moved, Except.mapError] using .refused move
  | ok reached =>
    obtain ⟨delivery, metrics⟩ := reached
    simp only [Option.map_some, Option.getD_some, moved, Except.mapError, orFail]
    cases counted : metrics.counters.forM fun counter => ensureFits counter.2 with
    | error halt =>
      rw [forM_ensureFits_error counted]
      exact .oversized
    | ok _ => exact .moved delivery.stored metrics _

end

/-- After any run of requests from a database of users alone, every order refers to a customer that
is there, every message to a campaign and a customer, every campaign to a segment, and every maker
is a user. So a campaign that is there is never sent in vain because its segment is missing, and a
receipt for a message that is there finds the campaign of the message. -/
theorem run_references_found {start : Database} (empty : HoldsOnlyUsers start)
    (visits : List Visit) :
    HasReferences (run start visits) ∧
    (∀ (visit : Visit) user id campaign, visit.Carries (run start visits) user (.sendCampaign id) →
      (run start visits).campaigns.find? id = some campaign →
      (∃ segment, (run start visits).segments.find? campaign.segment = some segment) ∧
      (respond visit.environment (run start visits) visit.request).response.status ≠ 404) ∧
    ∀ id log, (run start visits).logs.find? id = some log →
      ∃ campaign, (run start visits).campaigns.find? log.campaign = some campaign ∧
        ∀ now receipt, Tracking.IsFollowed (run start visits) now log campaign
          (Tracking.record (run start visits) now id receipt) := by
  have references : HasReferences (run start visits) :=
    Api.IsReachable.references ⟨start, visits, empty, rfl⟩
  generalize run start visits = db at references ⊢
  refine ⟨references, fun visit user id campaign carries found => ?_, fun id log found => ?_⟩
  · have member := (Table.find?_eq_some_iff.mp found).1
    have aimed := (references.aims campaign member campaign.segment rfl).find?
    refine ⟨aimed, fun unfound => ?_⟩
    rw [respond_of_carries carries] at unfound
    have rejected : (exchangeOf visit.environment db visit.request
        (Action.perform visit.environment db user (.sendCampaign id))).response.IsRejection := by
      constructor <;> omega
    obtain ⟨refusal, refused, same⟩ := refused_of_rejection (approves_perform user _) rejected
    obtain ⟨segment, stored⟩ := aimed
    rcases send_unfound (tell_refused refused) (same ▸ unfound) with lost | ⟨row, again, aimless⟩
    · cases found.symm.trans lost
    · cases found.symm.trans again
      cases stored.symm.trans aimless
  · have member := (Table.find?_eq_some_iff.mp found).1
    obtain ⟨campaign, owner⟩ := (references.senders log member log.campaign rfl).find?
    exact ⟨campaign, owner, fun now receipt => record_followed receipt found owner⟩

/-! ### A message to a customer -/

namespace Api.Sample

/-- What the user tells of a customer with enough visits to belong to the segment. -/
def loyalFields : List (Value × Value) := [
  (.text "name", .text "Ada"), (.text "email", .text "a@b.cc"), (.text "visits", .int 3)]

def loyalDraft : CustomerDraft where
  name := "Ada"
  email := "a@b.cc"
  phone := .absent
  totalSpend := .absent
  visits := .given 3
  lastVisit := .absent
  tags := .absent

def loyalBody : String := "\x7b\"name\":\"Ada\",\"email\":\"a@b.cc\",\"visits\":3\x7d"

def loyalVisit : Visit := visit "POST" "/api/customers" loyalBody

def loyalCustomer : Customer := { Directory.newRow environment.now loyalDraft with id := 1 }

def withLoyal : Database := { start with customers := start.customers.insert loyalCustomer }

/-- The database after the user has made the customer and a segment that the customer is in. -/
def loyalSegment : Database :=
  { withLoyal with
    segments := withLoyal.segments.insert (Segments.newRow environment.now user.id segmentDraft 1) }

/-- The same, after the user has made a campaign for the segment. -/
def loyalCampaign : Database :=
  { loyalSegment with campaigns := loyalSegment.campaigns.insert campaign }

/-- The user makes a customer, a segment and a campaign, and sends the campaign to the customer. -/
def loyalVisits : List Visit := [loyalVisit, segmentVisit, campaignVisit, sendingVisit]

set_option maxRecDepth 2000 in
theorem jsonContent_loyalBody : jsonContent loyalBody = .ok (.dict loyalFields) := by
  cbv

theorem loyalDraft_read :
    CustomerDraft.read .request (.dict loyalFields) = .accepted loyalDraft := by
  have held : Value.lookup loyalFields "email" = some (.text "a@b.cc") := rfl
  have email := Schema.required_of_lookup held Email.email_sample
  show CustomerDraft.ofFields loyalFields = _
  unfold CustomerDraft.ofFields
  rw [email]
  rfl

theorem loyalVisit_carries : loyalVisit.Carries start user (.createCustomer loyalDraft) := by
  refine carries rfl (by decide) ⟨.createCustomer, [], .given (.dict loyalFields), by cbv,
    bodyFor_visit rfl (by decide +kernel) jsonContent_loyalBody, ?_⟩
  exact Checked.map_eq_accepted_iff.mpr ⟨loyalDraft, content_of_yields ⟨_, rfl, loyalDraft_read⟩,
    rfl⟩

theorem loyal_made : visited start loyalVisit = withLoyal :=
  visited_of_carries loyalVisit_carries (by rfl)

theorem loyal_counted :
    Segments.count environment.settings withLoyal segmentDraft.rules = .ok 1 :=
  toOption_eq_some_iff.mp (by decide +kernel)

theorem loyalSegment_made : visited withLoyal segmentVisit = loyalSegment :=
  visited_createSegment (Carries.of_users segmentVisit_carries rfl) loyal_counted

theorem loyalCampaign_made : visited loyalSegment campaignVisit = loyalCampaign :=
  visited_of_carries (Carries.of_users campaignVisit_carries rfl) (by rfl)

/-- The campaign is sent to the customer, in one message. -/
theorem loyal_sent : ∃ log, (visited loyalCampaign sendingVisit).logs.find? 1 = some log ∧
    log.campaign = 1 ∧ (visited loyalCampaign sendingVisit).users = start.users := by
  have once : (Campaigns.send environment.settings loyalCampaign environment.now
      environment.vendorIds 1).toOption.map (fun effect =>
        effect.database.logs.rows.map fun log => (log.id, log.campaign)) = some [(1, 1)] := by
    decide +kernel
  obtain ⟨effect, sent, logged⟩ := Option.map_eq_some_iff.mp once
  have sent := toOption_eq_some_iff.mp sent
  have write : Write environment loyalCampaign user (.sendCampaign 1) effect.database :=
    sendCampaign_write sent
  have written := write_users write
  have performed : Action.perform environment loyalCampaign user (.sendCampaign 1) =
      .ok ⟨effect.database, effect.answer.map (success 200 ∘ sentValue)⟩ := by
    show tell 200 _ (Campaigns.send environment.settings loyalCampaign environment.now
      environment.vendorIds 1) = _
    rw [sent]
    rfl
  have carries : sendingVisit.Carries loyalCampaign user (.sendCampaign 1) :=
    Carries.of_users sendingVisit_carries rfl
  rw [visited_of_carries carries performed]
  have among : (1, 1) ∈ effect.database.logs.rows.map fun log => (log.id, log.campaign) := by
    rw [logged]
    exact List.mem_singleton_self _
  obtain ⟨log, member, same⟩ := List.mem_map.mp among
  exact ⟨log, Table.find?_eq_some_iff.mpr ⟨member, congrArg Prod.fst same⟩,
    congrArg Prod.snd same, written⟩

end Api.Sample

open Api.Sample in
/-- Once the user has sent the campaign, it is found for a receipt of its message, and sending it
again is not answered as if something were missing. -/
theorem loyal_references_found :
    HoldsOnlyUsers start ∧ HasReferences (run start loyalVisits) ∧
    ∃ log campaign, (run start loyalVisits).logs.find? 1 = some log ∧
      (run start loyalVisits).campaigns.find? 1 = some campaign ∧
      sendingVisit.Carries (run start loyalVisits) user (.sendCampaign 1) ∧
      (respond sendingVisit.environment (run start loyalVisits)
        sendingVisit.request).response.status ≠ 404 ∧
      ∀ now receipt, Tracking.IsFollowed (run start loyalVisits) now log campaign
        (Tracking.record (run start loyalVisits) now 1 receipt) := by
  have reached : run start loyalVisits = visited loyalCampaign sendingVisit := by
    rw [loyalVisits, run_cons, loyal_made, run_cons, loyalSegment_made, run_cons,
      loyalCampaign_made, run_cons, run_nil]
  obtain ⟨references, sendable, followed⟩ :=
    run_references_found start_holdsOnlyUsers loyalVisits
  obtain ⟨log, logged, owner, users⟩ := loyal_sent
  rw [← reached] at logged users
  obtain ⟨campaign, found, receipts⟩ := followed 1 log logged
  rw [owner] at found
  have carries : sendingVisit.Carries (run start loyalVisits) user (.sendCampaign 1) :=
    Carries.of_users sendingVisit_carries users
  exact ⟨start_holdsOnlyUsers, references, log, campaign, logged, found, carries,
    (sendable sendingVisit user 1 campaign carries found).2, receipts⟩

end Outreach
