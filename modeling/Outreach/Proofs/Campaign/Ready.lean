import Outreach.Proofs.Campaign.Once
import Outreach.Proofs.Segment.Stored

/-! What has to be there when a campaign is sent: a segment to aim at whose rules can be read, a
body that can be filled in, counters that have counted nothing yet, and customers whose attributes
can be taken. All of it holds after every run of requests, so sending can fail in the evaluation of
a customer only. -/

namespace Outreach

open Api

/-! ### Customers -/

/-- Tags that a snapshot can take: they have members. -/
def Customer.HasTags (customer : Customer) : Prop :=
  ∃ tags, Profile.tagTuple? customer.tags = some tags

theorem tagTuple?_ofTexts (texts : List String) :
    ∃ tags, Profile.tagTuple? (.ofTexts texts) = some tags := by
  unfold Profile.tagTuple?
  split
  next => exact ⟨_, rfl⟩
  next => exact ⟨_, rfl⟩

/-- What a message takes of a customer can be taken, if the tags can. -/
theorem profile?_of_tags {customer : Customer} (tagged : customer.HasTags) :
    ∃ profile, customer.profile? = some profile ∧ profile.name = .text customer.name ∧
      profile.email = .text customer.email := by
  obtain ⟨tags, taken⟩ := tagged
  have snapshot : customer.profile? = (Profile.tagTuple? customer.tags).map fun tags => {
      id := .int customer.id
      name := .text customer.name
      email := .text customer.email
      phone := .ofOption .text customer.phone
      totalSpend := .float customer.totalSpend
      visits := .int customer.visits
      lastVisit := .ofOption .moment customer.lastVisit
      tags
      createdAt := .moment customer.createdAt.moment
      updatedAt := .moment customer.updatedAt } := rfl
  rw [taken] at snapshot
  exact ⟨_, snapshot, rfl, rfl⟩

/-- The tags of every customer can be taken. -/
def HasTaggedCustomers (db : Database) : Prop := ∀ customer ∈ db.customers.rows, customer.HasTags

section
variable {env : Environment} {db written : Database} {user : User} {action : Action}

theorem newRow_tags (now : Moment) (draft : CustomerDraft) :
    (Directory.newRow now draft).HasTags :=
  tagTuple?_ofTexts _

theorem hasTags_of_makes {change : CustomerChange} {row changed : Customer}
    (makes : change.Makes row changed) (tagged : row.HasTags) : changed.HasTags := by
  unfold Customer.HasTags
  rw [makes.tags]
  cases change.tags with
  | absent => exact tagged
  | given tags? =>
    cases tags? with
    | none => exact ⟨.tuple [], by
        simp [Entry.toOption, Value.ofOption, Profile.tagTuple?, Value.isEmpty]⟩
    | some tags => exact tagTuple?_ofTexts tags

theorem HasTaggedCustomers.write (before : HasTaggedCustomers db)
    (write : Write env db user action written) : HasTaggedCustomers written := by
  intro customer member
  cases customer_origin write member with
  | kept old => exact before customer old
  | @created n draft fits => exact newRow_tags env.now draft
  | @imported n items drafts draft read among fits => exact newRow_tags env.now draft
  | changed old makes fits => exact hasTags_of_makes makes (before _ old)
  | @visited draft row found fits =>
    have old : row.HasTags := before row (Table.find?_eq_some_iff.mp found).1
    exact old

/-! ### Where the campaigns of a database come from -/

/-- A campaign of the database after a write: one that was there, a new one, or an old one that was
changed, sent or followed. -/
inductive Campaigns.Origin (env : Environment) (db : Database) : Campaign → Prop where
  | kept {campaign : Campaign} (member : campaign ∈ db.campaigns.rows) :
      Campaigns.Origin env db campaign
  | made {n user : Int} {draft : CampaignDraft} {segment : Segment}
      (aimed : db.segments.find? draft.plan.segment = some segment) :
      Campaigns.Origin env db (Row.withId n (Campaigns.newRow env.now user draft))
  | changed {row campaign : Campaign} {change : CampaignChange} (member : row ∈ db.campaigns.rows)
      (unsent : row.status ≠ .completed)
      (aimed : ∀ target, change.segment = .given (some target) →
        ∃ segment, db.segments.find? target = some segment)
      (made : Campaigns.changed? env.now change row = some campaign) :
      Campaigns.Origin env db campaign
  | sent {row : Campaign} {metrics : Metrics Int} (member : row ∈ db.campaigns.rows) :
      Campaigns.Origin env db (Campaigns.completed env.now metrics row)
  | followed {row : Campaign} {metrics : Metrics Int} {log : MessageLog}
      (member : row ∈ db.campaigns.rows) (found : log ∈ db.logs.rows)
      (owner : log.campaign = row.id) :
      Campaigns.Origin env db (Tracking.recounted env.now metrics row)

theorem origin_of_write (write : Write env db user action written) {campaign : Campaign}
    (member : campaign ∈ written.campaigns.rows) : Campaigns.Origin env db campaign := by
  cases write with
  | createCampaign aimed =>
    rcases Table.mem_insert_iff.mp member with old | rfl
    · exact .kept old
    · exact .made aimed
  | updateCampaign found unsent aimed made =>
    rcases Table.mem_replace_iff.mp member with ⟨old, -⟩ | ⟨rfl, -⟩
    · exact .kept old
    · exact .changed (Table.find?_eq_some_iff.mp found).1 unsent aimed made
  | deleteCampaign found => exact .kept (Table.mem_delete_iff.mp member).1
  | sendCampaign found unsent aimed complete sent =>
    rcases Table.mem_replace_iff.mp member with ⟨old, -⟩ | ⟨rfl, -⟩
    · exact .kept old
    · exact .sent (Table.find?_eq_some_iff.mp found).1
  | recordReceipt found owner moved =>
    rcases Table.mem_replace_iff.mp member with ⟨old, -⟩ | ⟨rfl, -⟩
    · exact .kept old
    · obtain ⟨stored, same⟩ := Table.find?_eq_some_iff.mp owner
      exact .followed stored (Table.find?_eq_some_iff.mp found).1 same.symm
  | createCustomer | importCustomers | updateCustomer | deleteCustomer | createOrder
  | createSegment | updateSegment | deleteSegment | recomputeSegment => exact .kept member

/-! ### Bodies -/

/-- A content with a body that can be filled in. -/
def HasBody (content : Value) : Prop := ∃ body, Message.body content = .ok body

theorem content_body (style : Style) (content : CampaignContent) :
    HasBody (content.toValue style) := by
  obtain ⟨subject, body, template, attachments⟩ := content
  refine ⟨body.toList, ?_⟩
  unfold CampaignContent.toValue
  cases subject <;> cases h : style.onlyGiven <;>
    simp [Style.entry, h, Value.record, Message.body, Value.isEmpty, Value.lookup, Value.asText?]

theorem contentValue_body (content : Option CampaignContent) :
    HasBody (Campaigns.contentValue content) := by
  cases content with
  | none => exact ⟨[], rfl⟩
  | some content => exact content_body _ content

/-- Every campaign has a body that can be filled in. -/
def HasBodies (db : Database) : Prop := ∀ campaign ∈ db.campaigns.rows, HasBody campaign.content

theorem HasBodies.write (before : HasBodies db) (write : Write env db user action written) :
    HasBodies written := by
  intro campaign member
  cases origin_of_write write member with
  | kept old => exact before campaign old
  | made aimed => exact content_body _ _
  | @changed row _ change old unsent aimed made =>
    rw [(Campaigns.changed?_makes made).content]
    cases change.content with
    | absent => exact before row old
    | given content => exact contentValue_body content
  | @sent row metrics old => exact before row old
  | @followed row metrics log old found owner => exact before row old

/-! ### Counters -/

/-- A campaign that was not sent has counted nothing. -/
def CountsNothingEarly (db : Database) : Prop :=
  ∀ campaign ∈ db.campaigns.rows, campaign.status ≠ .completed → campaign.metrics = .blank

theorem CountsNothingEarly.write (before : CountsNothingEarly db) (writes : WritesOnce db)
    (write : Write env db user action written) : CountsNothingEarly written := by
  intro campaign member unsent
  cases origin_of_write write member with
  | kept old => exact before campaign old unsent
  | made aimed => rfl
  | @changed row _ change old pending aimed made =>
    rw [(Campaigns.changed?_makes made).metrics]
    exact before row old pending
  | sent old => exact absurd rfl unsent
  | @followed row metrics log old found owner =>
    obtain ⟨campaign, stored, owns, completed⟩ := writes.sent log found
    obtain rfl : campaign = row := Table.eq_of_id stored old (owns.trans owner)
    exact absurd completed unsent

/-! ### Aims -/

/-- Every campaign aims at a segment that is there. -/
def HasAims (db : Database) : Prop := ∀ campaign ∈ db.campaigns.rows,
  ∃ segment ∈ db.segments.rows, segment.id = campaign.segment

/-- A segment is taken away only where no campaign aims at it. -/
theorem segment_kept (write : Write env db user action written) {segment : Segment}
    (member : segment ∈ db.segments.rows) :
    (∃ row ∈ written.segments.rows, row.id = segment.id) ∨
      ∀ campaign ∈ written.campaigns.rows, campaign.segment ≠ segment.id := by
  cases write with
  | createSegment counted => exact .inl ⟨segment, Table.mem_insert_iff.mpr (.inl member), rfl⟩
  | updateSegment found kept given named => exact .inl (Table.exists_mem_replace member)
  | recomputeSegment found recounted => exact .inl (Table.exists_mem_replace member)
  | @deleteSegment id row found unused =>
    by_cases own : segment.id = id
    · rw [own]
      exact .inr unused
    · exact .inl ⟨segment, Table.mem_delete_iff.mpr ⟨member, own⟩, rfl⟩
  | createCustomer | importCustomers | updateCustomer | deleteCustomer | createOrder
  | createCampaign | updateCampaign | deleteCampaign | sendCampaign | recordReceipt =>
    exact .inl ⟨segment, member, rfl⟩

/-- A campaign that comes from somewhere aims at a segment that was there. -/
theorem HasAims.of_origin (before : HasAims db) {campaign : Campaign}
    (origin : Campaigns.Origin env db campaign) :
    ∃ segment ∈ db.segments.rows, segment.id = campaign.segment := by
  cases origin with
  | kept old => exact before campaign old
  | @made n user draft segment aimed => exact ⟨segment, Table.find?_eq_some_iff.mp aimed⟩
  | @changed row _ change old unsent aimed made =>
    rcases Entry.orKept?_eq_some_iff.mp (Campaigns.changed?_makes made).segment with
      ⟨-, same⟩ | said
    · rw [same]
      exact before row old
    · obtain ⟨segment, found⟩ := aimed _ said
      exact ⟨segment, Table.find?_eq_some_iff.mp found⟩
  | @sent row metrics old => exact before row old
  | @followed row metrics log old found owner => exact before row old

theorem HasAims.write (before : HasAims db) (write : Write env db user action written) :
    HasAims written := by
  intro campaign member
  obtain ⟨segment, found, aimed⟩ := before.of_origin (origin_of_write write member)
  rcases segment_kept write found with ⟨row, kept, same⟩ | unused
  · exact ⟨row, kept, same.trans aimed⟩
  · exact absurd aimed.symm (unused campaign member)

end

/-! ### All of it -/

/-- A database from which campaigns can be sent. -/
structure CanSend (db : Database) : Prop where
  writes : WritesOnce db
  rules : HasNormalRules db
  tags : HasTaggedCustomers db
  bodies : HasBodies db
  counters : CountsNothingEarly db
  aims : HasAims db

theorem canSend_kept : IsKept CanSend where
  users _ _ before := ⟨writesOnce_kept.users _ _ before.writes, before.rules, before.tags,
    before.bodies, before.counters, before.aims⟩
  writes _ _ _ _ _ _ before carries write := {
    writes := before.writes.write write
    rules := hasNormalRules_kept.writes _ _ _ _ _ _ before.rules carries write
    tags := before.tags.write write
    bodies := before.bodies.write write
    counters := before.counters.write before.writes write
    aims := before.aims.write write }

/-- Campaigns can be sent from every database that requests lead to. -/
theorem Api.IsReachable.canSend {db : Database} (reachable : IsReachable db) : CanSend db := by
  obtain ⟨start, visits, empty, rfl⟩ := reachable
  refine canSend_kept.run ⟨⟨?_, ?_⟩, ?_, ?_, ?_, ?_, ?_⟩ visits <;>
    simp [HasNormalRules, HasTaggedCustomers, HasBodies, CountsNothingEarly, HasAims,
      empty.customers, empty.segments, empty.campaigns, empty.logs]

end Outreach
