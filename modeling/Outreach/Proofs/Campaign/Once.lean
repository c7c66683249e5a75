import Mathlib.Data.Prod.Basic
import Outreach.Proofs.Api.Step
import Outreach.Proofs.Audience.Members
import Outreach.Proofs.Campaign.Messages
import Outreach.Proofs.Segment.Stored

/-! Who was written to by which campaign. A campaign writes to its audience when it is sent, it is
sent once, and what was sent is not changed any more; so after any run of requests no customer has
two messages of one campaign. -/

namespace Outreach

open Api

/-- The campaign that a message is from and the customer it goes to. -/
def MessageLog.address (log : MessageLog) : Int × Int := (log.campaign, log.customer)

/-- No campaign wrote to a customer twice, and only campaigns that were sent wrote at all. -/
structure WritesOnce (db : Database) : Prop where
  once : (db.logs.rows.map MessageLog.address).Nodup
  sent : ∀ log ∈ db.logs.rows, ∃ campaign ∈ db.campaigns.rows,
    campaign.id = log.campaign ∧ campaign.status = .completed

/-- A row shows a campaign as it was when it was sent. -/
structure Campaign.IsSentAs (campaign row : Campaign) : Prop where
  id : row.id = campaign.id
  status : row.status = .completed
  name : row.name = campaign.name
  description : row.description = campaign.description
  channel : row.channel = campaign.channel
  segment : row.segment = campaign.segment
  content : row.content = campaign.content
  schedule : row.schedule = campaign.schedule

theorem Campaign.IsSentAs.refl {campaign : Campaign} (completed : campaign.status = .completed) :
    campaign.IsSentAs campaign :=
  ⟨rfl, completed, rfl, rfl, rfl, rfl, rfl, rfl⟩

theorem Campaign.IsSentAs.trans {first second third : Campaign} (one : first.IsSentAs second)
    (two : second.IsSentAs third) : first.IsSentAs third where
  id := two.id.trans one.id
  status := two.status
  name := two.name.trans one.name
  description := two.description.trans one.description
  channel := two.channel.trans one.channel
  segment := two.segment.trans one.segment
  content := two.content.trans one.content
  schedule := two.schedule.trans one.schedule

/-! ### What a write does to a campaign that was sent -/

section
variable {env : Environment} {db written : Database} {user : User} {action : Action}

/-- Putting another row in the place of one that was not sent leaves every campaign that was. -/
theorem mem_replace_of_unsent {campaign row changed : Campaign}
    (member : campaign ∈ db.campaigns.rows) (completed : campaign.status = .completed)
    (found : row ∈ db.campaigns.rows) (unsent : row.status ≠ .completed)
    (same : changed.id = row.id) : campaign ∈ (db.campaigns.replace changed).rows := by
  refine Table.mem_replace_iff.mpr (.inl ⟨member, ?_⟩)
  intro taken
  have : campaign = row := Table.eq_of_id member found (taken.trans same)
  rw [this] at completed
  exact unsent completed

/-- A campaign that was sent stays as it is through every write but its own deletion. -/
theorem Api.Write.sent_kept (write : Write env db user action written) {campaign : Campaign}
    (member : campaign ∈ db.campaigns.rows) (completed : campaign.status = .completed) :
    (∃ row ∈ written.campaigns.rows, campaign.IsSentAs row) ∨
      (action = .deleteCampaign campaign.id ∧
        ∀ row ∈ written.campaigns.rows, row.id ≠ campaign.id) := by
  have itself := Campaign.IsSentAs.refl completed
  cases write with
  | createCampaign aimed =>
    exact .inl ⟨campaign, Table.mem_insert_iff.mpr (.inl member), itself⟩
  | updateCampaign found unsent aimed made =>
    have row_mem := (Table.find?_eq_some_iff.mp found).1
    have same := (Campaigns.changed?_makes made).id
    exact .inl ⟨campaign, mem_replace_of_unsent member completed row_mem unsent same, itself⟩
  | deleteCampaign found =>
    rename_i id row
    by_cases own : campaign.id = id
    · right
      subst own
      exact ⟨rfl, fun row among => (Table.mem_delete_iff.mp among).2⟩
    · exact .inl ⟨campaign, Table.mem_delete_iff.mpr ⟨member, own⟩, itself⟩
  | sendCampaign found unsent aimed complete sent =>
    have row_mem := (Table.find?_eq_some_iff.mp found).1
    exact .inl ⟨campaign, mem_replace_of_unsent member completed row_mem unsent rfl, itself⟩
  | @recordReceipt message receipt log row delivery metrics found owner moved =>
    left
    by_cases counts : campaign.id = row.id
    · have row_mem := (Table.find?_eq_some_iff.mp owner).1
      obtain rfl : campaign = row := Table.eq_of_id member row_mem counts
      exact ⟨_, Table.mem_replace_iff.mpr (.inr ⟨rfl, campaign, member, rfl⟩),
        rfl, completed, rfl, rfl, rfl, rfl, rfl, rfl⟩
    · exact ⟨campaign, Table.mem_replace_iff.mpr (.inl ⟨member, counts⟩), itself⟩
  | createCustomer | importCustomers | updateCustomer | deleteCustomer | createOrder
  | createSegment | updateSegment | deleteSegment | recomputeSegment =>
    exact .inl ⟨campaign, member, itself⟩

/-! ### What a write does to the messages -/

/-- Nothing is written to anyone anew. -/
theorem WritesOnce.of_sublist (before : WritesOnce db)
    (fewer : (written.logs.rows.map MessageLog.address).Sublist
      (db.logs.rows.map MessageLog.address))
    (kept : ∀ campaign ∈ db.campaigns.rows, campaign.status = .completed →
      (∃ log ∈ written.logs.rows, log.campaign = campaign.id) →
      ∃ row ∈ written.campaigns.rows, campaign.IsSentAs row) : WritesOnce written where
  once := before.once.sublist fewer
  sent log member := by
    have old := fewer.subset (List.mem_map_of_mem member)
    obtain ⟨earlier, among, same⟩ := List.mem_map.mp old
    obtain ⟨campaign, found, owner, completed⟩ := before.sent earlier among
    have writer : log.campaign = campaign.id := by
      rw [owner]
      exact (congrArg Prod.fst same).symm
    obtain ⟨row, stored, sentAs⟩ := kept campaign found completed ⟨log, member, writer⟩
    exact ⟨row, stored, sentAs.id.trans writer.symm, sentAs.status⟩

/-- The messages of a campaign go to as many customers, one after the other. -/
theorem address_of_addressed {campaign : Campaign} {members : List Audience.Member}
    {logs : List MessageLog}
    (addressed : List.Forall₂ (Campaigns.IsAddressed campaign) members logs) :
    logs.map MessageLog.address =
      (members.map fun member => member.customer.id).map (Prod.mk campaign.id) := by
  induction addressed with
  | nil => rfl
  | cons first later ih =>
    rw [List.map_cons, List.map_cons, List.map_cons, ← ih, MessageLog.address, first.1, first.2]

/-- A campaign that was not sent before writes to its members once. -/
theorem WritesOnce.send (before : WritesOnce db) {campaign completed : Campaign}
    {members : List Audience.Member} {fresh : List MessageLog}
    (member : campaign ∈ db.campaigns.rows) (unsent : campaign.status ≠ .completed)
    (same : completed.id = campaign.id) (ends : completed.status = .completed)
    (apart : (members.map fun member => member.customer.id).Nodup)
    (addressed : List.Forall₂ (Campaigns.IsAddressed campaign) members fresh) :
    WritesOnce { db with
      campaigns := db.campaigns.replace completed, logs := db.logs.insertAll fresh } := by
  have addresses := address_of_addressed addressed
  constructor
  · rw [Table.rows_insertAll, List.map_append, Table.map_numbered (fun _ _ => rfl), addresses]
    refine List.nodup_append.mpr ⟨before.once, apart.map (Prod.mk_right_injective campaign.id), ?_⟩
    -- An older message of the campaign would have it sent already.
    rintro address old other new rfl
    obtain ⟨log, among, rfl⟩ := List.mem_map.mp old
    obtain ⟨customer, -, pair⟩ := List.mem_map.mp new
    obtain ⟨owner, found, owns, done⟩ := before.sent log among
    have : owner = campaign :=
      Table.eq_of_id found member (owns.trans (congrArg Prod.fst pair).symm)
    rw [this] at done
    exact unsent done
  · intro log stored
    have replaced : completed ∈ (db.campaigns.replace completed).rows :=
      Table.mem_replace_iff.mpr (.inr ⟨rfl, campaign, member, same.symm⟩)
    rcases Table.mem_insertAll stored with old | ⟨new, isFresh, n, rfl⟩
    · obtain ⟨owner, found, owns, done⟩ := before.sent log old
      exact ⟨owner, mem_replace_of_unsent found done member unsent same, owns, done⟩
    · have new_address : new.address ∈ fresh.map MessageLog.address := List.mem_map_of_mem isFresh
      rw [addresses] at new_address
      obtain ⟨customer, -, pair⟩ := List.mem_map.mp new_address
      exact ⟨completed, replaced, same.trans (congrArg Prod.fst pair), ends⟩

theorem WritesOnce.write (before : WritesOnce db) (write : Write env db user action written) :
    WritesOnce written := by
  -- What is deleted with its campaign needs none; all else keeps the campaigns that were sent.
  have kept : ∀ campaign ∈ db.campaigns.rows, campaign.status = .completed →
      action ≠ .deleteCampaign campaign.id →
      ∃ row ∈ written.campaigns.rows, campaign.IsSentAs row :=
    fun campaign member completed stays =>
      (write.sent_kept member completed).resolve_right fun deleted => stays deleted.1
  cases write with
  | deleteCustomer found =>
    exact before.of_sublist (List.filter_sublist.map _) fun campaign member completed _ =>
      kept campaign member completed (by simp)
  | deleteCampaign found =>
    refine before.of_sublist (List.filter_sublist.map _) fun campaign member completed owns => ?_
    obtain ⟨log, stored, owner⟩ := owns
    have other := (Table.mem_deleteWhere_iff.mp stored).2
    refine kept campaign member completed fun same => ?_
    cases same
    simp [owner] at other
  | @recordReceipt message receipt log row delivery metrics found owner moved =>
    have log_mem := (Table.find?_eq_some_iff.mp found).1
    have addresses : (db.logs.replace { log with delivery := delivery.stored }).rows.map
        MessageLog.address = db.logs.rows.map MessageLog.address :=
      Table.map_replace log_mem rfl rfl
    exact before.of_sublist (addresses ▸ .refl _) fun campaign member completed _ =>
      kept campaign member completed (by simp)
  | @sendCampaign id campaign segment progress found unsent aimed complete sent =>
    have member := (Table.find?_eq_some_iff.mp found).1
    have ascending := Audience.members_ascending env.settings.batchSize db.customers segment.rules
    rcases Campaigns.sendToAll_cases env.now campaign env.vendorIds
      (Campaigns.audience env.settings db segment).found 0 ⟨[], campaign.metrics⟩ with
      failed | ⟨fresh, metrics, addressed, made⟩
    · rw [failed] at sent
      cases sent
    · rw [made] at sent
      cases sent
      exact before.send member unsent rfl rfl (ascending.imp fun less => Int.ne_of_lt less)
        addressed
  | createCampaign | updateCampaign | createCustomer | importCustomers | updateCustomer
  | createOrder | createSegment | updateSegment | deleteSegment | recomputeSegment =>
    exact before.of_sublist (.refl _) fun campaign member completed _ =>
      kept campaign member completed (by simp)

end

theorem writesOnce_kept : IsKept WritesOnce where
  users _ _ before := ⟨before.once, before.sent⟩
  writes _ _ _ _ _ _ before _ write := before.write write

/-! ### Runs -/

namespace Api.Sample

def campaignDraft : CampaignDraft where
  plan := {
    name := "Hello"
    description := .absent
    channel := .sms
    segment := 1
    content := ⟨.absent, "Hi!", .absent, .absent⟩
    schedule := .absent }
  status := .absent

def campaignBody : String :=
  "\x7b\"name\":\"Hello\",\"type\":\"sms\",\"segment_id\":1," ++
    "\"content\":\x7b\"body\":\"Hi!\"\x7d\x7d"

def campaignVisit : Visit := visit "POST" "/api/campaigns" campaignBody

/-- The campaign that the user has made. -/
def campaign : Campaign :=
  { Campaigns.newRow environment.now user.id campaignDraft with id := 1 }

/-- The database after the user has made a campaign for the segment. -/
def withCampaign : Database :=
  { withSegment with campaigns := withSegment.campaigns.insert campaign }

def sendingVisit : Visit := visit "POST" "/api/campaigns/1/send" ""

set_option maxRecDepth 2000 in
theorem jsonContent_campaignBody : jsonContent campaignBody = .ok (.dict [
    (.text "name", .text "Hello"), (.text "type", .text "sms"), (.text "segment_id", .int 1),
    (.text "content", .dict [(.text "body", .text "Hi!")])]) := by
  cbv

theorem campaignVisit_carries :
    campaignVisit.Carries withSegment user (.createCampaign campaignDraft) :=
  carries rfl (by decide) ⟨.createCampaign, [], .given _, by cbv,
    bodyFor_visit rfl (by decide +kernel) jsonContent_campaignBody, by rfl⟩

theorem sendingVisit_carries : sendingVisit.Carries withCampaign user (.sendCampaign 1) :=
  carries rfl (by decide) ⟨.sendCampaign, [("campaign_id", "1")], .absent, by cbv, by rfl, by rfl⟩

/-- The user makes a segment and a campaign and sends the campaign. -/
def visits : List Visit := [segmentVisit, campaignVisit, sendingVisit]

end Api.Sample

/-! ### All runs -/

end Outreach
