import Outreach.Api.Perform
import Outreach.Proofs.Store.Table

/-! What an action of a signed-in user can do to the database. An action that is carried out leaves
the database as it was or makes the one write that belongs to it, and each write comes with the
conditions that were checked before it. -/

namespace Outreach

/-- A segment under another name and description. -/
def Segments.retitled (name : String) (change : SegmentChange) (segment : Segment) : Segment :=
  { segment with name, description := change.description.getD segment.description }

/-- A campaign all of whose messages were handed over. -/
def Campaigns.completed (now : Moment) (metrics : Metrics Int) (campaign : Campaign) : Campaign :=
  { campaign with
    status := .completed
    metrics
    updatedAt := (Stamp.automatic now).moment }

/-- A campaign that has counted a receipt. -/
def Tracking.recounted (now : Moment) (metrics : Metrics Int) (campaign : Campaign) : Campaign :=
  { campaign with metrics, updatedAt := (Stamp.automatic now).moment }

/-- The audience that a campaign is sent to. -/
def Campaigns.audience (settings : Settings) (db : Database) (segment : Segment) :
    Audience.Members :=
  Audience.members settings.batchSize db.customers [] segment.rules fun _ => false

/-! ### Changes -/

/-- The changed customer has what the change brings, and what was there where it brings nothing. -/
structure CustomerChange.Makes (change : CustomerChange) (row changed : Customer) : Prop where
  id : changed.id = row.id
  name : change.name.orKept? row.name = some changed.name
  email : change.email.orKept? row.email = some changed.email
  phone : changed.phone = change.phone.getD row.phone
  totalSpend : ∃ spend, change.totalSpend.orKept? row.totalSpend = some spend ∧
    changed.totalSpend = spend.stored
  visits : change.visits.orKept? row.visits = some changed.visits
  lastVisit : changed.lastVisit = (change.lastVisit.getD row.lastVisit).map Moment.wallClock
  tags : changed.tags = (change.tags.toOption.map (.ofOption .ofTexts)).getD row.tags
  createdAt : changed.createdAt = row.createdAt

theorem Directory.changed?_makes {now : Moment} {change : CustomerChange} {row changed : Customer}
    (made : changed? now change row = some changed) : change.Makes row changed := by
  simp only [changed?, Option.bind_eq_bind, Option.bind_eq_some_iff, Option.some.injEq] at made
  obtain ⟨name, named, email, addressed, spend, spent, visits, counted, rfl⟩ := made
  exact ⟨rfl, named, addressed, rfl, ⟨spend, spent, rfl⟩, counted, rfl, rfl, rfl⟩

section
variable {settings : Settings} {db : Database} {now : Moment} {change : SegmentChange}
  {row ruled counted : Segment}

/-- A segment whose rules are changed stays as it is, or has the rules that the change brings with
the audience that was counted for them. -/
theorem Segments.ruled_cases
    (kept : (∀ rules, change.rules ≠ .given (some rules)) → ruled = row)
    (made : ∀ rules, change.rules = .given (some rules) →
      withRules settings db now rules row = .ok ruled) :
    ruled = row ∨ ∃ rules audience, change.rules = .given (some rules) ∧
      rules.isSame row.rules = false ∧ count settings db rules = .ok audience ∧
      ruled = { recounted now audience row with rules } := by
  by_cases brings : ∃ rules, change.rules = .given (some rules)
  · obtain ⟨rules, brought⟩ := brings
    have made := made rules brought
    unfold withRules at made
    split at made
    next =>
      cases made
      exact .inl rfl
    next differ =>
      obtain ⟨audience, counted, rest⟩ := bind_eq_ok_iff.mp made
      cases rest
      exact .inr ⟨rules, audience, brought, by simpa using differ, counted, rfl⟩
  · exact .inl (kept fun rules brought => brings ⟨rules, brought⟩)

theorem Segments.recount_ok {size : Int} (made : recount size db now row = .ok counted) :
    ∃ audience, Audience.count size db.customers [] row.rules = .ok audience ∧
      counted = recounted now audience row := by
  obtain ⟨audience, found, rest⟩ := bind_eq_ok_iff.mp made
  cases rest
  exact ⟨audience, found, rfl⟩

end

/-- The changed campaign has what the change brings, and what was there where it brings nothing. -/
structure CampaignChange.Makes (change : CampaignChange) (row changed : Campaign) : Prop where
  id : changed.id = row.id
  name : change.name.orKept? row.name = some changed.name
  description : changed.description = change.description.getD row.description
  channel : change.channel.orKept? row.channel = some changed.channel
  status : change.status.orKept? row.status = some changed.status
  segment : change.segment.orKept? row.segment = some changed.segment
  content : changed.content =
    (change.content.toOption.map Campaigns.contentValue).getD row.content
  schedule : changed.schedule =
    (change.schedule.toOption.map Campaigns.scheduleValue).getD row.schedule
  metrics : changed.metrics = row.metrics
  createdBy : changed.createdBy = row.createdBy
  createdAt : changed.createdAt = row.createdAt

theorem Campaigns.changed?_makes {now : Moment} {change : CampaignChange} {row changed : Campaign}
    (made : changed? now change row = some changed) : change.Makes row changed := by
  simp only [changed?, Option.bind_eq_bind, Option.bind_eq_some_iff, Option.some.injEq] at made
  obtain ⟨name, named, channel, sentOver, status, staged, segment, aimed, rfl⟩ := made
  exact ⟨rfl, named, rfl, sentOver, staged, aimed, rfl, rfl, rfl, rfl, rfl⟩

namespace Api

/-- The writes of actions, each with what was checked before it. -/
inductive Write (env : Environment) (db : Database) (user : User) : Action → Database → Prop where
  | createCustomer {draft : CustomerDraft}
      (free : Directory.ensureEmailFree db draft.email none = .ok ())
      (fits : fitsColumn (Directory.newRow env.now draft).visits) :
      Write env db user (.createCustomer draft)
        { db with customers := db.customers.insertAll [Directory.newRow env.now draft] }
  | importCustomers {items : List Value} {drafts : List CustomerDraft}
      (read : Directory.readItems items = .ok drafts)
      (distinct : Directory.distinct (drafts.map CustomerDraft.email))
      (free : Directory.takenEmail? db (drafts.map CustomerDraft.email) = none)
      (fit : ∀ draft ∈ drafts, fitsColumn (Directory.newRow env.now draft).visits) :
      Write env db user (.importCustomers (.list items))
        { db with customers := db.customers.insertAll (drafts.map (Directory.newRow env.now)) }
  | updateCustomer {id : Int} {change : CustomerChange} {row changed : Customer}
      (found : db.customers.find? id = some row)
      (free : ∀ email, change.email = .given (some email) →
        Directory.ensureEmailFree db email (some id) = .ok ())
      (made : Directory.changed? env.now change row = some changed)
      (fits : fitsColumn changed.visits) :
      Write env db user (.updateCustomer id change)
        { db with customers := db.customers.replace changed }
  | deleteCustomer {id : Int} {row : Customer} (found : db.customers.find? id = some row) :
      Write env db user (.deleteCustomer id) (db.deleteCustomer id)
  | createOrder {draft : OrderDraft} {customer : Customer}
      (found : db.customers.find? draft.customer = some customer)
      (free : ∀ order ∈ db.orders.rows, order.number ≠ draft.number)
      (fits : fitsColumn (Intake.visited env.now draft.amount customer).visits) :
      Write env db user (.createOrder draft)
        { db with
          orders := db.orders.insert (Intake.newRow env.now draft)
          customers := db.customers.replace (Intake.visited env.now draft.amount customer) }
  | createSegment {draft : SegmentDraft} {audience : Nat}
      (counted : Segments.count env.settings db draft.rules = .ok audience) :
      Write env db user (.createSegment draft)
        { db with segments := db.segments.insert (Segments.newRow env.now user.id draft audience) }
  | updateSegment {id : Int} {change : SegmentChange} {row ruled : Segment} {name : String}
      (found : db.segments.find? id = some row)
      (kept : (∀ rules, change.rules ≠ .given (some rules)) → ruled = row)
      (given : ∀ rules, change.rules = .given (some rules) →
        Segments.withRules env.settings db env.now rules row = .ok ruled)
      (named : change.name.orKept? ruled.name = some name) :
      Write env db user (.updateSegment id change)
        { db with segments := db.segments.replace (Segments.retitled name change ruled) }
  | deleteSegment {id : Int} {row : Segment} (found : db.segments.find? id = some row)
      (unused : ∀ campaign ∈ db.campaigns.rows, campaign.segment ≠ id) :
      Write env db user (.deleteSegment id) { db with segments := db.segments.delete id }
  | recomputeSegment {id : Int} {row counted : Segment} (found : db.segments.find? id = some row)
      (recounted : Segments.recount env.settings.batchSize db env.now row = .ok counted) :
      Write env db user (.recomputeSegment id) (Segments.store db counted)
  | createCampaign {draft : CampaignDraft} {segment : Segment}
      (aimed : db.segments.find? draft.plan.segment = some segment) :
      Write env db user (.createCampaign draft)
        { db with campaigns := db.campaigns.insert (Campaigns.newRow env.now user.id draft) }
  | updateCampaign {id : Int} {change : CampaignChange} {row changed : Campaign}
      (found : db.campaigns.find? id = some row) (unsent : row.status ≠ .completed)
      (aimed : ∀ target, change.segment = .given (some target) →
        ∃ segment, db.segments.find? target = some segment)
      (made : Campaigns.changed? env.now change row = some changed) :
      Write env db user (.updateCampaign id change)
        { db with campaigns := db.campaigns.replace changed }
  | deleteCampaign {id : Int} {row : Campaign} (found : db.campaigns.find? id = some row) :
      Write env db user (.deleteCampaign id) (db.deleteCampaign id)
  | sendCampaign {id : Int} {campaign : Campaign} {segment : Segment}
      {progress : Campaigns.Progress} (found : db.campaigns.find? id = some campaign)
      (unsent : campaign.status ≠ .completed)
      (aimed : db.segments.find? campaign.segment = some segment)
      (complete : (Campaigns.audience env.settings db segment).failure = none)
      (sent : Campaigns.sendToAll env.now campaign env.vendorIds 0 ⟨[], campaign.metrics⟩
        (Campaigns.audience env.settings db segment).found = .ok progress) :
      Write env db user (.sendCampaign id)
        { db with
          campaigns := db.campaigns.replace
            (Campaigns.completed env.now progress.metrics campaign)
          logs := db.logs.insertAll progress.logs }
  | recordReceipt {message : Int} {receipt : DeliveryReceipt} {log : MessageLog}
      {campaign : Campaign} {delivery : Delivery} {metrics : Metrics Int}
      (found : db.logs.find? message = some log)
      (owner : db.campaigns.find? log.campaign = some campaign)
      (moved : log.delivery.advance env.now receipt.report campaign.metrics =
        .ok (delivery, metrics)) :
      Write env db user (.recordReceipt message receipt)
        { db with
          logs := db.logs.replace { log with delivery := delivery.stored }
          campaigns := db.campaigns.replace (Tracking.recounted env.now metrics campaign) }

/-! ### Each part of the domain -/

theorem tell_ok {α : Type} {status : Nat} {write : α → Value} {outcome : Except Halt (Effect α)}
    {effect : Effect Http.Response} (told : tell status write outcome = .ok effect) :
    ∃ inner, outcome = .ok inner ∧ inner.database = effect.database := by
  obtain ⟨inner, found, rfl⟩ := map_eq_ok_iff.mp told
  exact ⟨inner, found, rfl⟩

theorem tellDone_ok {outcome : Except Halt (Effect Unit)} {effect : Effect Http.Response}
    (told : tellDone outcome = .ok effect) :
    ∃ inner, outcome = .ok inner ∧ inner.database = effect.database := by
  obtain ⟨inner, found, rfl⟩ := map_eq_ok_iff.mp told
  exact ⟨inner, found, rfl⟩

section
variable {env : Environment} {db : Database} {user : User}

theorem store_ok {rows : List Customer} {stored : Database}
    (kept : Directory.store db rows = .ok stored) :
    (∀ row ∈ rows, fitsColumn row.visits) ∧
      stored = { db with customers := db.customers.insertAll rows } := by
  obtain ⟨_, fit, rest⟩ := bind_eq_ok_iff.mp kept
  cases rest
  exact ⟨forM_ensureFits_eq_ok_iff.mp fit, rfl⟩

theorem createCustomer_write {draft : CustomerDraft} {effect : Effect CustomerView}
    (made : Directory.create db env.now draft = .ok effect) :
    Write env db user (.createCustomer draft) effect.database := by
  obtain ⟨_, free, rest⟩ := bind_eq_ok_iff.mp made
  obtain ⟨stored, kept, rest⟩ := bind_eq_ok_iff.mp rest
  obtain ⟨fit, rfl⟩ := store_ok kept
  cases rest
  exact .createCustomer free (fit _ (List.mem_singleton_self _))

theorem importCustomers_write {payload : Value} {effect : Effect (List Int)}
    (made : Directory.importAll db env.now payload = .ok effect) :
    Write env db user (.importCustomers payload) effect.database := by
  unfold Directory.importAll at made
  cases payload with
  | list items =>
    obtain ⟨drafts, read, rest⟩ := bind_eq_ok_iff.mp made
    dsimp only at rest
    split at rest
    next => cases rest
    next distinct =>
      split at rest
      next => cases rest
      next free =>
        obtain ⟨stored, kept, rest⟩ := bind_eq_ok_iff.mp rest
        obtain ⟨fit, rfl⟩ := store_ok kept
        cases rest
        exact .importCustomers read (by simpa using distinct) free (by simpa using fit)
  | _ => cases made

theorem updateCustomer_write {id : Int} {change : CustomerChange} {effect : Effect CustomerView}
    (made : Directory.update db env.now id change = .ok effect) :
    Write env db user (.updateCustomer id change) effect.database := by
  obtain ⟨row, got, rest⟩ := bind_eq_ok_iff.mp made
  have found := (Table.get_eq_ok_iff.mp got).2
  dsimp only at rest
  split at rest
  next email given =>
    obtain ⟨_, free, rest⟩ := bind_eq_ok_iff.mp rest
    obtain ⟨changed, holds, rest⟩ := bind_eq_ok_iff.mp rest
    obtain ⟨_, fits, rest⟩ := bind_eq_ok_iff.mp rest
    cases rest
    refine .updateCustomer found ?_ (orFail_eq_ok_iff.mp holds) (ensureFits_eq_ok_iff.mp fits)
    intro other same
    cases given.symm.trans same
    exact free
  next none_given =>
    obtain ⟨changed, holds, rest⟩ := bind_eq_ok_iff.mp rest
    obtain ⟨_, fits, rest⟩ := bind_eq_ok_iff.mp rest
    cases rest
    refine .updateCustomer found ?_ (orFail_eq_ok_iff.mp holds) (ensureFits_eq_ok_iff.mp fits)
    exact fun email given => absurd given (none_given email)

theorem deleteCustomer_write {id : Int} {effect : Effect Unit}
    (made : Directory.delete db id = .ok effect) :
    Write env db user (.deleteCustomer id) effect.database := by
  obtain ⟨row, got, rest⟩ := bind_eq_ok_iff.mp made
  have found := (Table.get_eq_ok_iff.mp got).2
  have same : row.id = id := (Table.find?_eq_some_iff.mp found).2
  cases rest
  rw [same]
  exact .deleteCustomer found

theorem createOrder_write {draft : OrderDraft} {effect : Effect OrderView}
    (made : Intake.record db env.now draft = .ok effect) :
    Write env db user (.createOrder draft) effect.database := by
  obtain ⟨customer, got, rest⟩ := bind_eq_ok_iff.mp made
  have found := (Table.get_eq_ok_iff.mp got).2
  dsimp only at rest
  split at rest
  next => cases rest
  next free =>
    obtain ⟨_, fits, rest⟩ := bind_eq_ok_iff.mp rest
    cases rest
    exact .createOrder found (by simpa using free) (ensureFits_eq_ok_iff.mp fits)

theorem createSegment_write {draft : SegmentDraft} {effect : Effect SegmentView}
    (made : Segments.create env.settings db env.now user.id draft = .ok effect) :
    Write env db user (.createSegment draft) effect.database := by
  obtain ⟨audience, counted, rest⟩ := bind_eq_ok_iff.mp made
  cases rest
  exact .createSegment counted

theorem updateSegment_write {id : Int} {change : SegmentChange} {effect : Effect SegmentView}
    (made : Segments.update env.settings db env.now id change = .ok effect) :
    Write env db user (.updateSegment id change) effect.database := by
  obtain ⟨row, got, rest⟩ := bind_eq_ok_iff.mp made
  have found := (Table.get_eq_ok_iff.mp got).2
  dsimp only at rest
  split at rest
  next rules given =>
    obtain ⟨ruled, ruling, rest⟩ := bind_eq_ok_iff.mp rest
    obtain ⟨name, named, rest⟩ := bind_eq_ok_iff.mp rest
    cases rest
    refine .updateSegment found ?_ ?_ (orFail_eq_ok_iff.mp named)
    · exact fun none_given => absurd given (none_given rules)
    · intro other same
      cases given.symm.trans same
      exact ruling
  next none_given =>
    obtain ⟨ruled, ruling, rest⟩ := bind_eq_ok_iff.mp rest
    cases ruling
    obtain ⟨name, named, rest⟩ := bind_eq_ok_iff.mp rest
    cases rest
    refine .updateSegment found (fun _ => rfl) ?_ (orFail_eq_ok_iff.mp named)
    exact fun rules given => absurd given (none_given rules)

theorem deleteSegment_write {id : Int} {effect : Effect Unit}
    (made : Segments.delete db id = .ok effect) :
    Write env db user (.deleteSegment id) effect.database := by
  obtain ⟨row, got, rest⟩ := bind_eq_ok_iff.mp made
  have found := (Table.get_eq_ok_iff.mp got).2
  have same : row.id = id := (Table.find?_eq_some_iff.mp found).2
  dsimp only at rest
  split at rest
  next => cases rest
  next unused =>
    cases rest
    rw [same]
    exact .deleteSegment found (by simpa using unused)

theorem recomputeSegment_write {id : Int} {effect : Effect SegmentView}
    (made : Segments.recompute env.settings db env.now id = .ok effect) :
    Write env db user (.recomputeSegment id) effect.database := by
  obtain ⟨row, got, rest⟩ := bind_eq_ok_iff.mp made
  have found := (Table.get_eq_ok_iff.mp got).2
  obtain ⟨counted, recounted, rest⟩ := bind_eq_ok_iff.mp rest
  cases rest
  exact .recomputeSegment found (mapError_eq_ok_iff.mp recounted)

theorem createCampaign_write {draft : CampaignDraft} {effect : Effect CampaignView}
    (made : Campaigns.create db env.now user.id draft = .ok effect) :
    Write env db user (.createCampaign draft) effect.database := by
  obtain ⟨segment, got, rest⟩ := bind_eq_ok_iff.mp made
  cases rest
  exact .createCampaign (Table.get_eq_ok_iff.mp got).2

theorem ensureUnsent_ok {campaign : Campaign} {done : Unit}
    (passed : Campaigns.ensureUnsent campaign = .ok done) : campaign.status ≠ .completed := by
  unfold Campaigns.ensureUnsent at passed
  split at passed
  next => cases passed
  next unsent => exact unsent

theorem updateCampaign_write {id : Int} {change : CampaignChange} {effect : Effect CampaignView}
    (made : Campaigns.update db env.now id change = .ok effect) :
    Write env db user (.updateCampaign id change) effect.database := by
  obtain ⟨row, got, rest⟩ := bind_eq_ok_iff.mp made
  have found := (Table.get_eq_ok_iff.mp got).2
  obtain ⟨_, passed, rest⟩ := bind_eq_ok_iff.mp rest
  have unsent := ensureUnsent_ok passed
  dsimp only at rest
  split at rest
  next target given =>
    obtain ⟨segment, got, rest⟩ := bind_eq_ok_iff.mp rest
    have aimed := (Table.get_eq_ok_iff.mp got).2
    obtain ⟨changed, holds, rest⟩ := bind_eq_ok_iff.mp rest
    cases rest
    refine .updateCampaign found unsent ?_ (orFail_eq_ok_iff.mp holds)
    intro other same
    cases given.symm.trans same
    exact ⟨segment, aimed⟩
  next none_given =>
    obtain ⟨changed, holds, rest⟩ := bind_eq_ok_iff.mp rest
    cases rest
    refine .updateCampaign found unsent ?_ (orFail_eq_ok_iff.mp holds)
    exact fun target given => absurd given (none_given target)

theorem deleteCampaign_write {id : Int} {effect : Effect Unit}
    (made : Campaigns.delete db id = .ok effect) :
    Write env db user (.deleteCampaign id) effect.database := by
  obtain ⟨row, got, rest⟩ := bind_eq_ok_iff.mp made
  have found := (Table.get_eq_ok_iff.mp got).2
  have same : row.id = id := (Table.find?_eq_some_iff.mp found).2
  cases rest
  rw [same]
  exact .deleteCampaign found

theorem sendCampaign_write {id : Int} {effect : Effect Campaigns.Sent}
    (made : Campaigns.send env.settings db env.now env.vendorIds id = .ok effect) :
    Write env db user (.sendCampaign id) effect.database := by
  obtain ⟨campaign, got, rest⟩ := bind_eq_ok_iff.mp made
  have found := (Table.get_eq_ok_iff.mp got).2
  obtain ⟨_, passed, rest⟩ := bind_eq_ok_iff.mp rest
  have unsent := ensureUnsent_ok passed
  obtain ⟨segment, aim, rest⟩ := bind_eq_ok_iff.mp rest
  have aimed := (Table.get_eq_ok_iff.mp aim).2
  obtain ⟨progress, sent, rest⟩ := bind_eq_ok_iff.mp rest
  split at rest
  next => cases rest
  next complete =>
    obtain ⟨_, -, rest⟩ := bind_eq_ok_iff.mp rest
    cases rest
    exact .sendCampaign found unsent aimed complete sent

theorem recordReceipt_write {message : Int} {receipt : DeliveryReceipt}
    {effect : Effect MessageView}
    (made : Tracking.record db env.now message receipt = .ok effect) :
    Write env db user (.recordReceipt message receipt) effect.database := by
  obtain ⟨log, got, rest⟩ := bind_eq_ok_iff.mp made
  have found := (Table.get_eq_ok_iff.mp got).2
  obtain ⟨⟨delivery, metrics⟩, moved, rest⟩ := bind_eq_ok_iff.mp rest
  obtain ⟨campaign, owner, rest⟩ := bind_eq_ok_iff.mp rest
  have owner := orFail_eq_ok_iff.mp owner
  obtain ⟨_, -, rest⟩ := bind_eq_ok_iff.mp rest
  cases rest
  rw [owner] at moved
  exact .recordReceipt found owner (mapError_eq_ok_iff.mp moved)

end

/-! ### All actions -/

/-- What is carried out leaves the database as it was. -/
def Keeps {α : Type} (db : Database) (outcome : Except Halt (Effect α)) : Prop :=
  ∀ effect, outcome = .ok effect → effect.database = db

theorem keeps_ok {α : Type} {db : Database} {answer : Option α} :
    Keeps db (.ok ⟨db, answer⟩) := by
  intro effect same
  cases same
  rfl

theorem keeps_bind {α β : Type} {db : Database} {first : Except Halt α}
    {next : α → Except Halt (Effect β)} (each : ∀ value, Keeps db (next value)) :
    Keeps db (first >>= next) := by
  intro effect done
  obtain ⟨value, -, rest⟩ := bind_eq_ok_iff.mp done
  exact each value effect rest

section
variable {env : Environment} {db : Database} {user : User} {effect : Effect Http.Response}

theorem keeps_tell {α : Type} {status : Nat} {write : α → Value}
    {outcome : Except Halt (Effect α)} (keeps : Keeps db outcome)
    (told : tell status write outcome = .ok effect) : effect.database = db := by
  obtain ⟨inner, found, same⟩ := tell_ok told
  exact same.symm.trans (keeps inner found)

theorem tell_write {α : Type} {action : Action} {status : Nat} {write : α → Value}
    {outcome : Except Halt (Effect α)}
    (writes : ∀ inner, outcome = .ok inner → Write env db user action inner.database)
    (told : tell status write outcome = .ok effect) : Write env db user action effect.database := by
  obtain ⟨inner, found, same⟩ := tell_ok told
  exact same ▸ writes inner found

theorem tellDone_write {action : Action} {outcome : Except Halt (Effect Unit)}
    (writes : ∀ inner, outcome = .ok inner → Write env db user action inner.database)
    (told : tellDone outcome = .ok effect) : Write env db user action effect.database := by
  obtain ⟨inner, found, same⟩ := tellDone_ok told
  exact same ▸ writes inner found

/-- What an action that is carried out leaves behind: the database as it was, or its write. -/
theorem perform_cases {action : Action} (performed : action.perform env db user = .ok effect) :
    effect.database = db ∨ Write env db user action effect.database := by
  cases action with
  | me => exact .inl (keeps_tell keeps_ok performed)
  | listCustomers query =>
    have keeps : Keeps db (Directory.list db query) :=
      keeps_bind fun _ => keeps_bind fun _ => keeps_bind fun _ => keeps_ok
    exact .inl (keeps_tell keeps performed)
  | createCustomer draft => exact .inr (tell_write (fun _ => createCustomer_write) performed)
  | importCustomers payload => exact .inr (tell_write (fun _ => importCustomers_write) performed)
  | getCustomer id =>
    have keeps : Keeps db (Directory.get db id) := keeps_bind fun _ => keeps_ok
    exact .inl (keeps_tell keeps performed)
  | updateCustomer id change => exact .inr (tell_write (fun _ => updateCustomer_write) performed)
  | deleteCustomer id => exact .inr (tellDone_write (fun _ => deleteCustomer_write) performed)
  | listOrders page customer =>
    have keeps : Keeps db (Intake.list db page customer) :=
      keeps_bind fun _ => keeps_bind fun _ => keeps_ok
    exact .inl (keeps_tell keeps performed)
  | createOrder draft => exact .inr (tell_write (fun _ => createOrder_write) performed)
  | getOrder id =>
    have keeps : Keeps db (Intake.get db id) := keeps_bind fun _ => keeps_ok
    exact .inl (keeps_tell keeps performed)
  | listSegments page =>
    have keeps : Keeps db (Segments.list db page) := keeps_bind fun _ => keeps_ok
    exact .inl (keeps_tell keeps performed)
  | createSegment draft => exact .inr (tell_write (fun _ => createSegment_write) performed)
  | previewSegment request =>
    have keeps : Keeps db (Segments.preview env.settings db request) :=
      keeps_bind fun _ => keeps_ok
    exact .inl (keeps_tell keeps performed)
  | getSegment id =>
    have keeps : Keeps db (Segments.get db id) := keeps_bind fun _ => keeps_ok
    exact .inl (keeps_tell keeps performed)
  | updateSegment id change => exact .inr (tell_write (fun _ => updateSegment_write) performed)
  | deleteSegment id => exact .inr (tellDone_write (fun _ => deleteSegment_write) performed)
  | recomputeSegment id => exact .inr (tell_write (fun _ => recomputeSegment_write) performed)
  | evaluateSegment segment customer =>
    have keeps : Keeps db (Segments.evaluate db segment customer) :=
      keeps_bind fun _ => keeps_bind fun _ => keeps_bind fun _ => keeps_ok
    exact .inl (keeps_tell keeps performed)
  | listCampaigns page status =>
    have keeps : Keeps db (Campaigns.list db page status) := keeps_bind fun _ => keeps_ok
    exact .inl (keeps_tell keeps performed)
  | createCampaign draft => exact .inr (tell_write (fun _ => createCampaign_write) performed)
  | campaignHistory limit => exact .inl (keeps_tell keeps_ok performed)
  | getCampaign id =>
    have keeps : Keeps db (Campaigns.get db id) := keeps_bind fun _ => keeps_ok
    exact .inl (keeps_tell keeps performed)
  | updateCampaign id change => exact .inr (tell_write (fun _ => updateCampaign_write) performed)
  | deleteCampaign id => exact .inr (tellDone_write (fun _ => deleteCampaign_write) performed)
  | sendCampaign id => exact .inr (tell_write (fun _ => sendCampaign_write) performed)
  | campaignReceipts campaign =>
    have keeps : Keeps db (Tracking.receipts db campaign) := keeps_bind fun _ => keeps_ok
    exact .inl (keeps_tell keeps performed)
  | recordReceipt message receipt =>
    exact .inr (tell_write (fun _ => recordReceipt_write) performed)

end

end Api

/-! ### Where the customers of a database come from -/

open Api

/-- A customer of the database after the write of an action: one that was there, a new one, or an old
one that was changed or has placed an order. -/
inductive Customers.Origin (env : Environment) (db : Database) : Action → Customer → Prop where
  | kept {action : Action} {customer : Customer} (member : customer ∈ db.customers.rows) :
      Customers.Origin env db action customer
  | created {n : Int} {draft : CustomerDraft}
      (fits : fitsColumn (Directory.newRow env.now draft).visits) :
      Customers.Origin env db (.createCustomer draft)
        (Row.withId n (Directory.newRow env.now draft))
  | imported {n : Int} {items : List Value} {drafts : List CustomerDraft} {draft : CustomerDraft}
      (read : Directory.readItems items = .ok drafts) (among : draft ∈ drafts)
      (fits : fitsColumn (Directory.newRow env.now draft).visits) :
      Customers.Origin env db (.importCustomers (.list items))
        (Row.withId n (Directory.newRow env.now draft))
  | changed {id : Int} {change : CustomerChange} {row customer : Customer}
      (member : row ∈ db.customers.rows) (makes : change.Makes row customer)
      (fits : fitsColumn customer.visits) :
      Customers.Origin env db (.updateCustomer id change) customer
  | visited {draft : OrderDraft} {row : Customer}
      (found : db.customers.find? draft.customer = some row)
      (fits : fitsColumn (Intake.visited env.now draft.amount row).visits) :
      Customers.Origin env db (.createOrder draft) (Intake.visited env.now draft.amount row)

theorem customer_origin {env : Environment} {db written : Database} {user : User} {action : Action}
    (write : Write env db user action written) {customer : Customer}
    (member : customer ∈ written.customers.rows) : Customers.Origin env db action customer := by
  cases write with
  | createCustomer free fits =>
    rcases Table.mem_insertAll member with old | ⟨new, isNew, n, rfl⟩
    · exact .kept old
    · rw [List.mem_singleton.mp isNew]
      exact .created fits
  | importCustomers read distinct free fit =>
    rcases Table.mem_insertAll member with old | ⟨new, isNew, n, rfl⟩
    · exact .kept old
    · obtain ⟨draft, among, rfl⟩ := List.mem_map.mp isNew
      exact .imported read among (fit draft among)
  | updateCustomer found free made fits =>
    rcases Table.mem_replace_iff.mp member with ⟨old, -⟩ | ⟨rfl, -⟩
    · exact .kept old
    · have old := (Table.find?_eq_some_iff.mp found).1
      exact .changed old (Directory.changed?_makes made) fits
  | deleteCustomer found => exact .kept (Table.mem_delete_iff.mp member).1
  | createOrder found free fits =>
    rcases Table.mem_replace_iff.mp member with ⟨old, -⟩ | ⟨rfl, -⟩
    · exact .kept old
    · exact .visited found fits
  | createSegment | updateSegment | deleteSegment | recomputeSegment | createCampaign
  | updateCampaign | deleteCampaign | sendCampaign | recordReceipt => exact .kept member

end Outreach
