import Outreach.Proofs.Campaign.Ready

/-! Sending a campaign. Either every customer who belongs to the campaign's segment gets one message
and the campaign is completed, or a customer cannot be evaluated and nothing happens. No message is
refused because of where its delivery stands. -/

namespace Outreach

open Api
open Audience (Failure Member IsSnapshot holds isMember ruleOf verdict)

/-! ### Who gets a message -/

/-- The first of some customers who cannot be evaluated fails with an error. -/
def Audience.FailsFirst (rules : Value) (customers : List Customer) (e : EvaluationError) : Prop :=
  ∃ before customer after, customers = before ++ customer :: after ∧
    (∀ earlier ∈ before, ∃ answer, isMember rules earlier = .ok answer) ∧
    isMember rules customer = .error (.evaluation e)

/-- A campaign's message to a customer, as the attributes of the customer have it. -/
def Campaigns.IsMessageTo (vendorIds : Nat → String) (campaign : Campaign) (customer : Customer)
    (log : MessageLog) : Prop :=
  ∃ profile, customer.profile? = some profile ∧
    IsMessage vendorIds campaign ⟨customer, profile⟩ log

section
variable {rules : Value} {rule : Rule}

theorem ruleOf_normal (normal : Rule.IsNormal rules rule) : ruleOf [] rules = .ok rule := by
  have read : Rule.parseShared [] rules Rule.rootPath = .ok rule := normal.read
  rw [ruleOf, read]
  rfl

theorem snapshot_eq_ok_iff {customer : Customer} {profile : Profile} :
    Audience.snapshot customer = .ok profile ↔ customer.profile? = some profile := by
  unfold Audience.snapshot
  cases customer.profile? <;> simp

end

/-! ### Messages -/

section
variable {campaign : Campaign} {vendorIds : Nat → String} {customers : List Customer}
  {members : List Member} {logs : List MessageLog}

theorem detail_text (s : String) : ∃ characters, Message.detail (.text s) = .ok characters := by
  unfold Message.detail
  split
  next => exact ⟨[], rfl⟩
  next => exact ⟨s.toList, rfl⟩

/-- The message to a customer whose tags can be taken can be rendered. -/
theorem render_snapshot {customer : Customer} {member : Member} (body : HasBody campaign.content)
    (tagged : customer.HasTags) (snapshot : IsSnapshot customer member) :
    ∃ message, Message.render campaign.content member.profile = .ok message := by
  obtain ⟨profile, taken, name, email⟩ := profile?_of_tags tagged
  have same : member.profile = profile :=
    Option.some.inj ((snapshot_eq_ok_iff.mp snapshot.2).symm.trans taken)
  obtain ⟨body, filled⟩ := body
  obtain ⟨first, named⟩ := detail_text customer.name
  obtain ⟨second, addressed⟩ := detail_text customer.email
  refine ⟨String.ofList (Message.fill first second body), ?_⟩
  unfold Message.render
  rw [filled, same, name, email, named, addressed]
  rfl

theorem render_all (body : HasBody campaign.content)
    (tagged : ∀ customer ∈ customers, customer.HasTags)
    (snapshots : List.Forall₂ IsSnapshot customers members) :
    ∀ member ∈ members, ∃ message,
      Message.render campaign.content member.profile = .ok message := by
  induction snapshots with
  | nil => simp
  | cons snapshot _ ih =>
    rw [List.forall_mem_cons] at tagged ⊢
    exact ⟨render_snapshot body tagged.1 snapshot, ih tagged.2⟩

theorem messages_to (snapshots : List.Forall₂ IsSnapshot customers members)
    (messages : List.Forall₂ (Campaigns.IsMessage vendorIds campaign) members logs) :
    List.Forall₂ (Campaigns.IsMessageTo vendorIds campaign) customers logs := by
  induction snapshots generalizing logs with
  | nil =>
    cases messages
    exact .nil
  | cons snapshot _ ih =>
    cases messages with
    | cons message later =>
      obtain ⟨rfl, taken⟩ := snapshot
      exact .cons ⟨_, snapshot_eq_ok_iff.mp taken, message⟩ (ih later)

/-- Messages go to their customers in the customers' order. -/
theorem recipients (messages : List.Forall₂ (Campaigns.IsMessageTo vendorIds campaign) customers
    logs) : logs.map MessageLog.customer = customers.map Customer.id := by
  induction messages with
  | nil => rfl
  | cons message _ ih =>
    obtain ⟨profile, -, message⟩ := message
    rw [List.map_cons, List.map_cons, ih, message.recipient]

end

/-- The numbers of rows are such as columns hold. -/
structure Database.NumbersFit (db : Database) : Prop where
  customers : fitsColumn db.customers.lastId
  segments : fitsColumn db.segments.lastId
  campaigns : fitsColumn db.campaigns.lastId

section
variable {settings : Settings} {db : Database} {now : Moment} {vendorIds : Nat → String} {id : Int}
  {campaign : Campaign} {segment : Segment}

theorem fitsColumn_of_le {n m : Int} (nonneg : 0 ≤ n) (bound : n ≤ m) (fits : fitsColumn m) :
    fitsColumn n := by
  simp only [fitsColumn, Bool.and_eq_true, decide_eq_true_eq] at fits ⊢
  have : 0 ≤ powerOfTwo 63 := by decide
  omega

theorem get_of_find? {ρ : Type} [Row ρ] {table : Table ρ} {resource : Resource} {row : ρ}
    (fits : fitsColumn table.lastId) (found : table.find? id = some row) :
    table.get resource id = .ok row := by
  obtain ⟨member, rfl⟩ := Table.find?_eq_some_iff.mp found
  have positive := table.positive row member
  exact Table.get_eq_ok_iff.mpr
    ⟨fitsColumn_of_le (by omega) (table.id_le_lastId member) fits, found⟩

/-- Sending, once the campaign and its segment were found and the messages could be written. -/
theorem send_of_sendToAll {progress : Campaigns.Progress} (unsent : campaign.status ≠ .completed)
    (got : db.campaigns.get .campaign id = .ok campaign)
    (aimed : db.segments.get .segment campaign.segment = .ok segment)
    (sent : Campaigns.sendToAll now campaign vendorIds 0 ⟨[], campaign.metrics⟩
      (Campaigns.audience settings db segment).found = .ok progress) :
    Campaigns.send settings db now vendorIds id =
      match (Campaigns.audience settings db segment).failure with
      | some failure => .error (Segments.haltOf failure)
      | none => do
        progress.metrics.counters.forM fun counter => ensureFits counter.2
        return ⟨{ db with
          campaigns := db.campaigns.replace (Campaigns.completed now progress.metrics campaign)
          logs := db.logs.insertAll progress.logs },
          some (Campaigns.Sent.ofLogs campaign.id progress.logs)⟩ := by
  have passed : Campaigns.ensureUnsent campaign = .ok () := if_neg unsent
  unfold Campaigns.send
  rw [got]
  show (Campaigns.ensureUnsent campaign >>= _) = _
  rw [passed]
  show (db.segments.get .segment campaign.segment >>= _) = _
  rw [aimed]
  show (Campaigns.sendToAll now campaign vendorIds 0 ⟨[], campaign.metrics⟩
    (Campaigns.audience settings db segment).found >>= _) = _
  rw [sent]
  rfl

/-- What sending is refused for: the campaign is not there, or it was sent, or its segment is not
there, or the rules of the segment cannot be evaluated. -/
theorem send_refused {refusal : Refusal}
    (refused : Campaigns.send settings db now vendorIds id = .error (.refused refusal)) :
    db.campaigns.get .campaign id = .error (.refused refusal) ∨
      ∃ campaign, db.campaigns.get .campaign id = .ok campaign ∧
        (refusal = .alreadySent campaign.id ∨
          db.segments.get .segment campaign.segment = .error (.refused refusal) ∨
          ∃ e, refusal = .rule e) := by
  rcases bind_eq_error_iff.mp refused with missing | ⟨campaign, got, refused⟩
  · exact .inl missing
  refine .inr ⟨campaign, got, ?_⟩
  rcases bind_eq_error_iff.mp refused with sent | ⟨_, -, refused⟩
  · unfold Campaigns.ensureUnsent at sent
    split at sent <;> cases sent
    exact .inl rfl
  rcases bind_eq_error_iff.mp refused with missing | ⟨segment, -, refused⟩
  · exact .inr (.inl missing)
  rcases bind_eq_error_iff.mp refused with unsent | ⟨progress, -, refused⟩
  · rcases Campaigns.sendToAll_cases now campaign vendorIds
      (Campaigns.audience settings db segment).found 0 ⟨[], campaign.metrics⟩ with
      failed | ⟨fresh, metrics, -, made⟩
    · cases failed.symm.trans unsent
    · cases made.symm.trans unsent
  split at refused
  next failure _ =>
    unfold Segments.haltOf at refused
    split at refused <;> cases refused
    exact .inr (.inr ⟨_, rfl⟩)
  next =>
    rcases bind_eq_error_iff.mp refused with oversized | ⟨_, -, done⟩
    · cases forM_ensureFits_error oversized
    · cases done

/-- A campaign that waits to be sent to a segment, where messages have names and row numbers and the
size of a page are such as columns hold. -/
structure Campaigns.IsDue (env : Environment) (db : Database) (id : Int) (campaign : Campaign)
    (segment : Segment) : Prop where
  ready : CanSend db
  paged : Audience.IsPageSize env.settings.batchSize
  fits : db.NumbersFit
  named : ∀ place, env.vendorIds place ≠ ""
  found : db.campaigns.find? id = some campaign
  unsent : campaign.status ≠ .completed
  aimed : db.segments.find? campaign.segment = some segment

variable {env : Environment} {rule : Rule}

/-- The messages to customers whose attributes were taken are written and counted, and then the way
in which the search for customers has ended decides. -/
theorem Campaigns.IsDue.send_eq (due : Campaigns.IsDue env db id campaign segment)
    {customers : List Customer} (stored : ∀ customer ∈ customers, customer ∈ db.customers.rows)
    (snapshots : List.Forall₂ IsSnapshot customers
      (Campaigns.audience env.settings db segment).found) :
    ∃ fresh, List.Forall₂ (Campaigns.IsMessageTo env.vendorIds campaign) customers fresh ∧
      Campaigns.send env.settings db env.now env.vendorIds id =
        match (Campaigns.audience env.settings db segment).failure with
        | some failure => .error (Segments.haltOf failure)
        | none => do
          (counted fresh campaign.metrics).counters.forM fun counter => ensureFits counter.2
          return ⟨{ db with
            campaigns := db.campaigns.replace
              (Campaigns.completed env.now (counted fresh campaign.metrics) campaign)
            logs := db.logs.insertAll fresh },
            some (Campaigns.Sent.ofLogs campaign.id fresh)⟩ := by
  have member := (Table.find?_eq_some_iff.mp due.found).1
  have rendered := render_all (due.ready.bodies campaign member)
    (fun customer among => due.ready.tags customer (stored customer among)) snapshots
  obtain ⟨fresh, messages, sent⟩ :=
    Campaigns.sendToAll_ok env.now due.named rendered 0 ⟨[], campaign.metrics⟩
  exact ⟨fresh, messages_to snapshots messages, send_of_sendToAll due.unsent
    (get_of_find? due.fits.campaigns due.found) (get_of_find? due.fits.segments due.aimed) sent⟩

/-- Where a customer cannot be judged, sending fails as the evaluation of the first such customer
does. -/
theorem Campaigns.IsDue.fails (due : Campaigns.IsDue env db id campaign segment)
    {e : EvaluationError} (first : Audience.FailsFirst segment.rules db.customers.rows e) :
    Campaigns.send env.settings db env.now env.vendorIds id =
      .error (Segments.haltOf (.evaluation e)) := by
  obtain ⟨before, customer, after, split, judged, refused⟩ := first
  obtain ⟨rule, normal⟩ := due.ready.rules segment (Table.find?_eq_some_iff.mp due.aimed).1
  have read := ruleOf_normal normal
  simp only [Audience.isMember_eq read] at judged refused
  obtain ⟨snapshots, failed⟩ := Audience.members_failed due.paged read split judged refused
  have stored : ∀ earlier ∈ before.filter (holds rule), earlier ∈ db.customers.rows := by
    intro earlier among
    rw [split]
    exact List.mem_append_left _ (List.mem_filter.mp among).1
  obtain ⟨fresh, -, sent⟩ := due.send_eq stored snapshots
  have ended : (Campaigns.audience env.settings db segment).failure = some (.evaluation e) := failed
  rw [sent, ended]

end

/-! ### Requests -/

/-- What the answer to a request tells of a campaign's new messages. -/
structure Campaigns.Sent.Tells (report : Campaigns.Sent) (campaign : Campaign)
    (fresh : List MessageLog) : Prop where
  campaign : report.campaign = campaign.id
  total : report.total = fresh.length
  sent : report.sent = countAt .sent fresh
  failed : report.failed = countAt .failed fresh
  complete : report.total = report.sent + report.failed

end Outreach
