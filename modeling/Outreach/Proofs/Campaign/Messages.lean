import Mathlib.Data.List.Forall2
import Outreach.Campaign.Sending
import Outreach.Proofs.Delivery.Moves
import Outreach.Proofs.Outcome

/-! The messages that sending a campaign writes. A message to a member of the audience is rendered,
handed over, and logged as sent or as failed; the campaign's counters count it on the way. A message
that waits to be sent may always be moved on, so nothing but a text that cannot be rendered keeps a
message from being written. -/

namespace Outreach.Campaigns

/-- How a campaign's message to a member is handed over. -/
def handoverOf (campaign : Campaign) (member : Audience.Member) : Message.Handover :=
  Message.handOver (some (Vocabulary.word campaign.channel)) member.profile

/-- The log of a campaign's message to a member: the rendered text, the outcome of the handover, and
a vendor's name for the message exactly if it was sent. -/
structure IsMessage (vendorIds : Nat → String) (campaign : Campaign) (member : Audience.Member)
    (log : MessageLog) : Prop where
  owner : log.campaign = campaign.id
  recipient : log.customer = member.customer.id
  rendered : Message.render campaign.content member.profile = .ok log.message
  status : log.delivery.status = Vocabulary.toValue (handoverOf campaign member).status
  error : log.delivery.errorDetails = .ofOption .text (handoverOf campaign member).errorDetails
  named : (handoverOf campaign member).status = .sent →
    ∃ place, log.delivery.vendorMessageId = .text (vendorIds place)
  nameless : (handoverOf campaign member).status ≠ .sent → log.delivery.vendorMessageId = .null

/-- The number of logs at a station. -/
def countAt (station : DeliveryStatus) (logs : List MessageLog) : Nat :=
  (logs.filter fun log => Delivery.station? log.delivery.status = some station).length

/-- Counters that have counted the messages of some logs. -/
def counted (logs : List MessageLog) (metrics : Metrics Int) : Metrics Int :=
  { metrics with
    sent := metrics.sent + countAt .sent logs
    failed := metrics.failed + countAt .failed logs }

theorem countAt_append (station : DeliveryStatus) (logs more : List MessageLog) :
    countAt station (logs ++ more) = countAt station logs + countAt station more := by
  simp [countAt]

theorem counted_append (logs more : List MessageLog) (metrics : Metrics Int) :
    counted (logs ++ more) metrics = counted more (counted logs metrics) := by
  simp only [counted, countAt_append]
  congr 1 <;> omega

/-- A message is handed over or it is not; it neither waits nor is it delivered yet. -/
theorem handOver_cases (channel : Option String) (profile : Profile) :
    Message.handOver channel profile = ⟨.sent, none⟩ ∨
      ∃ details, details ≠ "" ∧ Message.handOver channel profile = ⟨.failed, some details⟩ := by
  unfold Message.handOver
  split
  next => exact .inr ⟨_, by decide, rfl⟩
  next =>
    split
    next => exact .inr ⟨_, by decide, rfl⟩
    next => exact .inl rfl

/-! ### One message -/

section
variable {now : Moment} {campaign : Campaign} {vendorIds : Nat → String} {member : Audience.Member}

/-- A message that waits may move on to the station that its handover names. -/
theorem queued_move? {d : Delivery} (queued : d.status = Vocabulary.toValue DeliveryStatus.queued)
    {station : DeliveryStatus} (reached : station = .sent ∨ station = .failed)
    {report : DeliveryReport} (reported : report.status = Vocabulary.toValue station) :
    d.move? report = some station := by
  have standing : Delivery.station? d.current = some .queued := by
    rw [Delivery.station?_current, queued]
    decide
  have wanted : Delivery.station? report.status = some station := by
    rw [reported, Delivery.station?_word]
  have allowed : station ∈ DeliveryStatus.queued.next := by
    rcases reached with rfl | rfl <;> decide
  simp [Delivery.move?, standing, wanted, allowed]

theorem dispatch_ok {message : String} (vendorId : String)
    (rendered : Message.render campaign.content member.profile = .ok message) :
    dispatch campaign vendorId member = .ok ⟨message, handoverOf campaign member,
      if (handoverOf campaign member).status = .sent then some vendorId else none⟩ := by
  unfold dispatch
  rw [rendered]
  rfl

/-- The delivery that a message has once it was handed over. -/
def handedOver (now : Moment) (vendorId : String) (handover : Message.Handover) : Delivery where
  status := Vocabulary.toValue handover.status
  vendorMessageId := if handover.status = .sent then .text vendorId else .null
  errorDetails := .ofOption .text handover.errorDetails
  sentAt := if handover.status = .sent then .moment now.wallClock else .null

/-- What is reported of a handover. -/
def reportOf (vendorId : String) (handover : Message.Handover) : DeliveryReport where
  status := Vocabulary.toValue handover.status
  errorDetails := .ofOption .text handover.errorDetails
  vendorMessageId := .ofOption .text (if handover.status = .sent then some vendorId else none)

/-- The outcomes that a handover can have. -/
def IsOutcome (handover : Message.Handover) : Prop :=
  handover = ⟨.sent, none⟩ ∨ ∃ details, details ≠ "" ∧ handover = ⟨.failed, some details⟩

theorem orKept_text {s : String} (nonempty : s ≠ "") (kept : Value) :
    Delivery.orKept (.text s) kept = .text s := by
  have filled : (Value.text s).isEmpty = false := by simpa [Value.isEmpty] using nonempty
  rw [Delivery.orKept, filled]
  rfl

theorem orKept_null (kept : Value) : Delivery.orKept .null kept = kept := rfl

/-- The delivery of a message that waits to be sent. -/
def waiting : Delivery where
  status := Vocabulary.toValue DeliveryStatus.queued

/-- A message that waits can be moved to where its handover leads. -/
theorem advance_waiting {handover : Message.Handover} (outcome : IsOutcome handover)
    (now : Moment) (vendorId : String) (metrics : Metrics Int) :
    waiting.advance now (reportOf vendorId handover) metrics =
      .ok (waiting.arrive now (reportOf vendorId handover) handover.status,
        Delivery.count (Vocabulary.toValue DeliveryStatus.queued) handover.status metrics) := by
  unfold Delivery.advance
  rcases outcome with rfl | ⟨details, given, rfl⟩
  · rw [queued_move? rfl (.inl rfl) rfl]
    rfl
  · rw [queued_move? rfl (.inr rfl) rfl]
    rfl

theorem arrive_waiting {handover : Message.Handover} (outcome : IsOutcome handover)
    {vendorId : String} (named : vendorId ≠ "") :
    (waiting.arrive now (reportOf vendorId handover) handover.status).stored =
      handedOver now vendorId handover := by
  rcases outcome with rfl | ⟨details, given, rfl⟩
  · simp [waiting, Delivery.arrive, Delivery.stored, Delivery.keptMoment, handedOver, reportOf,
      orKept_text named, Value.ofOption]
  · simp [waiting, Delivery.arrive, Delivery.stored, Delivery.keptMoment, handedOver, reportOf,
      orKept_text given, orKept_null, Value.ofOption]

/-- Counting a handover is counting the log of its message. -/
theorem count_handover {handover : Message.Handover} (outcome : IsOutcome handover)
    {log : MessageLog} (status : log.delivery.status = Vocabulary.toValue handover.status)
    (metrics : Metrics Int) :
    Delivery.count (Vocabulary.toValue DeliveryStatus.queued) handover.status metrics =
      counted [log] metrics := by
  have waits : Delivery.station? (Vocabulary.toValue DeliveryStatus.queued) = some .queued :=
    Delivery.station?_word .queued
  have station := Delivery.station?_word handover.status
  rw [← status] at station
  rcases outcome with rfl | ⟨details, -, rfl⟩ <;>
    simp [Delivery.count, counted, countAt, station, waits, Counter.raise]

/-- The log of a message with its delivery. -/
def messageLog (now : Moment) (campaign : Campaign) (member : Audience.Member) (message : String)
    (delivery : Delivery) : MessageLog :=
  { queuedLog now campaign member message with delivery }

theorem sendTo_eq {message : String} (vendorId : String) (progress : Progress)
    (rendered : Message.render campaign.content member.profile = .ok message) :
    sendTo now campaign vendorId progress member =
      .ok ⟨progress.logs ++ [messageLog now campaign member message
          (waiting.arrive now (reportOf vendorId (handoverOf campaign member))
            (handoverOf campaign member).status).stored],
        Delivery.count (Vocabulary.toValue DeliveryStatus.queued)
          (handoverOf campaign member).status progress.metrics⟩ := by
  have outcome : IsOutcome (handoverOf campaign member) := handOver_cases _ _
  unfold sendTo
  rw [dispatch_ok vendorId rendered]
  show ((Delivery.advance now (reportOf vendorId (handoverOf campaign member)) waiting
    progress.metrics).mapError _ >>= _) = _
  rw [advance_waiting outcome]
  rfl

/-- Sending to a member whose message can be rendered adds the log of the message and counts it. -/
theorem sendTo_ok {message : String} (now : Moment) (progress : Progress) (place : Nat)
    (named : ∀ place, vendorIds place ≠ "")
    (rendered : Message.render campaign.content member.profile = .ok message) :
    ∃ log, IsMessage vendorIds campaign member log ∧
      sendTo now campaign (vendorIds place) progress member =
        .ok ⟨progress.logs ++ [log], counted [log] progress.metrics⟩ := by
  have outcome : IsOutcome (handoverOf campaign member) := handOver_cases _ _
  have isMessage : IsMessage vendorIds campaign member (messageLog now campaign member message
      (handedOver now (vendorIds place) (handoverOf campaign member))) := {
    owner := rfl
    recipient := rfl
    rendered := rendered
    status := rfl
    error := rfl
    named := fun sent => ⟨place, if_pos sent⟩
    nameless := fun unsent => if_neg unsent }
  refine ⟨_, isMessage, ?_⟩
  rw [sendTo_eq _ progress rendered, arrive_waiting outcome (named place),
    count_handover outcome isMessage.status]

/-- The log is about the campaign's message to the member. -/
def IsAddressed (campaign : Campaign) (member : Audience.Member) (log : MessageLog) : Prop :=
  log.campaign = campaign.id ∧ log.customer = member.customer.id

/-- Sending to a member adds one log, or fails because the message cannot be rendered. -/
theorem sendTo_cases (now : Moment) (campaign : Campaign) (vendorId : String)
    (progress : Progress) (member : Audience.Member) :
    sendTo now campaign vendorId progress member = .error (.failed .unforeseen) ∨
    ∃ log metrics, IsAddressed campaign member log ∧
      sendTo now campaign vendorId progress member = .ok ⟨progress.logs ++ [log], metrics⟩ := by
  cases rendered : Message.render campaign.content member.profile with
  | error fault =>
    left
    unfold sendTo dispatch
    rw [rendered]
    rfl
  | ok message =>
    right
    exact ⟨_, _, ⟨rfl, rfl⟩, sendTo_eq vendorId progress rendered⟩

/-! ### All messages -/

/-- Sending to members whose messages can all be rendered writes a message to each, in their order,
and counts all of them. -/
theorem sendToAll_ok {members : List Audience.Member} (now : Moment)
    (named : ∀ place, vendorIds place ≠ "")
    (rendered : ∀ member ∈ members, ∃ message,
      Message.render campaign.content member.profile = .ok message)
    (place : Nat) (progress : Progress) :
    ∃ fresh, List.Forall₂ (IsMessage vendorIds campaign) members fresh ∧
      sendToAll now campaign vendorIds place progress members =
        .ok ⟨progress.logs ++ fresh, counted fresh progress.metrics⟩ := by
  induction members generalizing place progress with
  | nil =>
    refine ⟨[], .nil, ?_⟩
    simp [sendToAll, counted, countAt]
  | cons member rest ih =>
    rw [List.forall_mem_cons] at rendered
    obtain ⟨⟨message, here⟩, later⟩ := rendered
    obtain ⟨log, isMessage, sent⟩ := sendTo_ok now progress place named here
    obtain ⟨fresh, messages, others⟩ :=
      ih later (place + 1) ⟨progress.logs ++ [log], counted [log] progress.metrics⟩
    refine ⟨log :: fresh, .cons isMessage messages, ?_⟩
    rw [sendToAll, sent]
    show sendToAll now campaign vendorIds (place + 1) _ rest = _
    rw [others, ← counted_append, List.append_assoc]
    rfl

/-- Sending to members adds one log for each, in their order, or fails because some message cannot be
rendered. -/
theorem sendToAll_cases (now : Moment) (campaign : Campaign) (vendorIds : Nat → String)
    (members : List Audience.Member) (place : Nat) (progress : Progress) :
    sendToAll now campaign vendorIds place progress members = .error (.failed .unforeseen) ∨
    ∃ fresh metrics, List.Forall₂ (IsAddressed campaign) members fresh ∧
      sendToAll now campaign vendorIds place progress members =
        .ok ⟨progress.logs ++ fresh, metrics⟩ := by
  induction members generalizing place progress with
  | nil => exact .inr ⟨[], progress.metrics, .nil, by simp [sendToAll]⟩
  | cons member rest ih =>
    rw [sendToAll]
    rcases sendTo_cases now campaign (vendorIds place) progress member with
      failed | ⟨log, metrics, addressed, sent⟩
    · left
      rw [failed]
      rfl
    · rw [sent]
      show sendToAll now campaign vendorIds (place + 1) ⟨progress.logs ++ [log], metrics⟩ rest = _ ∨
        ∃ fresh metrics', _ ∧ sendToAll now campaign vendorIds (place + 1) _ rest = _
      rcases ih (place + 1) ⟨progress.logs ++ [log], metrics⟩ with
        failed | ⟨fresh, total, others, sent⟩
      · exact .inl failed
      · refine .inr ⟨log :: fresh, total, .cons addressed others, ?_⟩
        rw [sent, List.append_assoc]
        rfl

end

end Outreach.Campaigns
