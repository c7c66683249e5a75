import Outreach.Proofs.Delivery.Census

/-! The journey of one delivery among all the reports about its campaign. It takes its stations in one
of three orders, every station writes its own time once and nothing that was known is lost, the last
station is never left, and a report that is at fault leaves no trace. -/

namespace Outreach

/-- The orders in which a delivery takes its stations. -/
def DeliveryStatus.journeys : List (List DeliveryStatus) :=
  [[queued, sent, delivered], [queued, sent, failed], [queued, failed]]

/-- A counter as a campaign has it: nothing, or a whole number. -/
def Value.IsCount (counter : Value) : Prop := counter = null ∨ ∃ n, counter = int n

namespace Value

theorem IsCount.counted {counter : Value} (count : counter.IsCount) :
    ∃ n, counter.counted = int n := by
  rcases count with rfl | ⟨n, rfl⟩
  · exact ⟨0, rfl⟩
  · exact ⟨n, counted_int n⟩

theorem IsCount.raised {counter : Value} (count : counter.IsCount) :
    ∃ n, counter.raised? = some (int n) := by
  obtain ⟨n, counts⟩ := count.counted
  exact ⟨n + 1, by rw [raised?, counts, plus?]⟩

theorem IsCount.lowered {counter : Value} (count : counter.IsCount) :
    ∃ n, counter.lowered? = some (int n) := by
  obtain ⟨n, counts⟩ := count.counted
  rw [lowered?, counts, plus?, Option.map_some]
  split
  · exact ⟨0, rfl⟩
  · exact ⟨n + -1, rfl⟩

theorem IsCount.raise {counter : Value} (count : counter.IsCount) :
    (Counter.raise counter).IsCount := by
  obtain ⟨n, raised⟩ := count.raised
  exact .inr ⟨n, by simp only [Counter.raise, raised, Option.getD_some]⟩

theorem IsCount.lower {counter : Value} (count : counter.IsCount) :
    (Counter.lower counter).IsCount := by
  obtain ⟨n, lowered⟩ := count.lowered
  exact .inr ⟨n, by simp only [Counter.lower, lowered, Option.getD_some]⟩

end Value

/-- The counters that deliveries change are counts. -/
structure Metrics.AreCounts (m : Metrics Value) : Prop where
  sent : m.sent.IsCount
  delivered : m.delivered.IsCount
  failed : m.failed.IsCount

namespace Metrics

open Delivery

theorem AreCounts.countable {m : Metrics Value} (counts : m.AreCounts) (before : Value)
    (station : DeliveryStatus) : isCountable before station m := by
  obtain ⟨_, sent⟩ := counts.sent.raised
  obtain ⟨_, delivered⟩ := counts.delivered.raised
  obtain ⟨_, failed⟩ := counts.failed.raised
  obtain ⟨_, lowered⟩ := counts.sent.lowered
  cases station <;> simp [isCountable, sent, delivered, failed, lowered]

theorem AreCounts.count {m : Metrics Value} (counts : m.AreCounts) (before : Value)
    (station : DeliveryStatus) : (count before station m).AreCounts := by
  cases station with
  | queued => exact counts
  | sent => exact ⟨counts.sent.raise, counts.delivered, counts.failed⟩
  | delivered => exact ⟨counts.sent, counts.delivered.raise, counts.failed⟩
  | failed =>
    refine ⟨?_, counts.delivered, counts.failed.raise⟩
    simp only [Delivery.count]
    split
    · exact counts.sent.lower
    · exact counts.sent

end Metrics

namespace Delivery

/-- No report about the delivery has been taken yet. -/
structure IsFresh (d : Delivery) : Prop where
  status : d.status.isEmpty ∨ d.status = Vocabulary.toValue DeliveryStatus.queued
  sentAt : d.sentAt = .null
  deliveredAt : d.deliveredAt = .null

/-- Where a delivery stands after the stations that it took since it was queued, and the times that
they wrote. -/
inductive HasTaken : List DeliveryStatus → Delivery → Prop where
  | queued {d : Delivery} (fresh : d.IsFresh) : HasTaken [] d
  | sent {d : Delivery} {sent : Moment}
      (status : d.status = Vocabulary.toValue DeliveryStatus.sent)
      (sentAt : d.sentAt = .moment sent) (deliveredAt : d.deliveredAt = .null) :
      HasTaken [.sent] d
  | delivered {d : Delivery} {sent delivered : Moment}
      (status : d.status = Vocabulary.toValue DeliveryStatus.delivered)
      (sentAt : d.sentAt = .moment sent) (deliveredAt : d.deliveredAt = .moment delivered)
      (ordered : sent.instant ≤ delivered.instant) : HasTaken [.sent, .delivered] d
  | bounced {d : Delivery} {sent : Moment}
      (status : d.status = Vocabulary.toValue DeliveryStatus.failed)
      (sentAt : d.sentAt = .moment sent) (deliveredAt : d.deliveredAt = .null) :
      HasTaken [.sent, .failed] d
  | failed {d : Delivery} (status : d.status = Vocabulary.toValue DeliveryStatus.failed)
      (sentAt : d.sentAt = .null) (deliveredAt : d.deliveredAt = .null) : HasTaken [.failed] d

section
variable {d : Delivery} {stations : List DeliveryStatus}

theorem IsFresh.station (fresh : d.IsFresh) : station? d.current = some .queued := by
  rw [station?_current]
  rcases fresh.status with empty | queued
  · rw [if_pos empty]
  · rw [queued, station?_word, ite_self]

theorem station?_current_of_word {station : DeliveryStatus}
    (status : d.status = Vocabulary.toValue station) : station? d.current = some station := by
  rw [station?_current, status, station?_word, if_neg]
  cases station <;> simp [Vocabulary.toValue, Vocabulary.word, DeliveryStatus.word, Value.isEmpty]

/-- A delivery stands at the station that it took last. -/
theorem HasTaken.station (taken : HasTaken stations d) :
    station? d.current = (DeliveryStatus.queued :: stations).getLast? := by
  cases taken with
  | queued fresh => exact fresh.station
  | sent status | delivered status | bounced status | failed status =>
    exact station?_current_of_word status

theorem HasTaken.journey (taken : HasTaken stations d) :
    ∃ journey ∈ DeliveryStatus.journeys, .queued :: stations <+: journey := by
  cases taken <;> simp [DeliveryStatus.journeys, List.cons_prefix_cons]

/-- The times that stand on a delivery are those of the stations that it took. -/
structure HasTimesOf (stations : List DeliveryStatus) (d : Delivery) : Prop where
  sentAt : d.sentAt ≠ .null ↔ .sent ∈ stations
  deliveredAt : d.deliveredAt ≠ .null ↔ .delivered ∈ stations
  ordered : d.deliveredAt ≠ .null → ∃ sent delivered, d.sentAt = .moment sent ∧
    d.deliveredAt = .moment delivered ∧ sent.instant ≤ delivered.instant

theorem HasTaken.times (taken : HasTaken stations d) : d.HasTimesOf stations := by
  cases taken with
  | queued fresh => constructor <;> simp [fresh.sentAt, fresh.deliveredAt]
  | sent _ sentAt deliveredAt | bounced _ sentAt deliveredAt | failed _ sentAt deliveredAt =>
    constructor <;> simp [sentAt, deliveredAt]
  | delivered _ sentAt deliveredAt ordered =>
    refine ⟨by simp [sentAt], by simp [deliveredAt], ?_⟩
    intro _
    exact ⟨_, _, sentAt, deliveredAt, ordered⟩

/-- No time that stands on the delivery comes after the moment. -/
def IsBy (now : Moment) (d : Delivery) : Prop :=
  ∀ sent, d.sentAt = .moment sent → sent.instant ≤ now.instant

/-- A move takes one more station. -/
theorem HasTaken.arrive (taken : HasTaken stations d) {now : Moment} (by_now : d.IsBy now)
    {report : DeliveryReport} {station : DeliveryStatus} (moves : d.move? report = some station) :
    HasTaken (stations ++ [station]) (d.arrive now report station) := by
  have leaves := move?_cases moves
  rw [taken.station] at leaves
  cases taken with
  | queued fresh =>
    obtain ⟨-, follows⟩ := leaves.resolve_right (by simp)
    rcases follows with rfl | rfl
    · exact .sent rfl rfl fresh.deliveredAt
    · exact .failed rfl fresh.sentAt fresh.deliveredAt
  | sent _ sentAt deliveredAt =>
    obtain ⟨-, follows⟩ := leaves.resolve_left (by simp)
    rcases follows with rfl | rfl
    · exact .delivered rfl sentAt rfl (by_now _ sentAt)
    · exact .bounced rfl sentAt deliveredAt
  | delivered | bounced | failed => simp at leaves

/-- The last stations are never left. -/
theorem HasTaken.settled (taken : HasTaken stations d)
    (ended : .delivered ∈ stations ∨ .failed ∈ stations) (report : DeliveryReport) :
    d.move? report = none := by
  cases moves : d.move? report with
  | none => rfl
  | some station =>
    have leaves := move?_cases moves
    rw [taken.station] at leaves
    cases taken with
    | queued | sent => simp at ended
    | delivered | bounced | failed => simp at leaves

end

/-- What is known of a delivery and stays known: the times that were written as they were, and that
there is a number of the vendor and that there are details of an error. -/
structure Keeps (before after : Delivery) : Prop where
  sentAt : before.sentAt ≠ .null → after.sentAt = before.sentAt
  deliveredAt : before.deliveredAt ≠ .null → after.deliveredAt = before.deliveredAt
  vendor : ¬before.vendorMessageId.isEmpty → ¬after.vendorMessageId.isEmpty
  details : ¬before.errorDetails.isEmpty → ¬after.errorDetails.isEmpty

theorem Keeps.refl (d : Delivery) : d.Keeps d :=
  ⟨fun _ => rfl, fun _ => rfl, id, id⟩

theorem Keeps.trans {first second third : Delivery} (before : first.Keeps second)
    (after : second.Keeps third) : first.Keeps third where
  sentAt known := by
    have same := before.sentAt known
    rw [after.sentAt (same ▸ known), same]
  deliveredAt known := by
    have same := before.deliveredAt known
    rw [after.deliveredAt (same ▸ known), same]
  vendor known := after.vendor (before.vendor known)
  details known := after.details (before.details known)

theorem orKept_filled {value kept : Value} (filled : ¬kept.isEmpty) :
    ¬(orKept value kept).isEmpty := by
  unfold orKept
  split
  next => exact filled
  next given => exact given

/-- A move writes a time only where none stood. -/
theorem HasTaken.keeps {d : Delivery} {stations : List DeliveryStatus} (taken : HasTaken stations d)
    (now : Moment) {report : DeliveryReport} {station : DeliveryStatus}
    (moves : d.move? report = some station) : d.Keeps (d.arrive now report station) := by
  have leaves := move?_cases moves
  rw [taken.station] at leaves
  cases taken with
  | queued fresh =>
    obtain ⟨-, follows⟩ := leaves.resolve_right (by simp)
    rcases follows with rfl | rfl
    · exact ⟨fun known => absurd fresh.sentAt known, fun _ => rfl, orKept_filled, id⟩
    · exact ⟨fun _ => rfl, fun _ => rfl, orKept_filled, orKept_filled⟩
  | sent _ sentAt deliveredAt =>
    obtain ⟨-, follows⟩ := leaves.resolve_left (by simp)
    rcases follows with rfl | rfl
    · exact ⟨fun _ => rfl, fun known => absurd deliveredAt known, orKept_filled, id⟩
    · exact ⟨fun _ => rfl, fun _ => rfl, orKept_filled, orKept_filled⟩
  | delivered | bounced | failed => simp at leaves

theorem move?_wanted {d : Delivery} {report : DeliveryReport} {station : DeliveryStatus}
    (moves : d.move? report = some station) : station? report.status = some station := by
  simp only [move?, bind, Option.bind_eq_some_iff] at moves
  obtain ⟨before, -, wanted, named, allowed⟩ := moves
  split at allowed
  next =>
    cases allowed
    exact named
  next => cases allowed

/-- A move writes no time but its own. -/
theorem IsBy.arrive {d : Delivery} {now later : Moment} (by_now : d.IsBy now)
    (ordered : now.instant ≤ later.instant) (report : DeliveryReport) (station : DeliveryStatus) :
    (d.arrive now report station).IsBy later := by
  intro sent written
  cases station with
  | sent =>
    cases written
    exact ordered
  | queued | delivered | failed => exact Int.le_trans (by_now sent written) ordered

end Delivery

namespace Trial

open Delivery

/-- The delivery at a place. -/
def delivery (trial : Trial) (place : Nat) : Delivery := trial.deliveries.getD place {}

/-- The station to which a report moves the delivery at a place, if it is about that delivery and
not at fault. -/
def stationTaken (place : Nat) (trial : Trial) (call : Call) : List DeliveryStatus :=
  if call.place = place ∧ (trial.report call.now call.place call.report).2.isNone then
    (station? call.report.status).toList
  else []

/-- The stations to which reports, one after the other, move the delivery at a place. -/
def stationsTaken (place : Nat) (trial : Trial) : List Call → List DeliveryStatus
  | [] => []
  | call :: rest =>
      trial.stationTaken place call ++
        (trial.report call.now call.place call.report).1.stationsTaken place rest

theorem run_append (trial : Trial) (earlier later : List Call) :
    trial.run (earlier ++ later) = (trial.run earlier).run later := by
  induction earlier generalizing trial with
  | nil => rfl
  | cons call rest ih => exact ih _

section
variable {trial : Trial} {call : Call}

/-- Where the counters are counts, a report is at fault and changes nothing, or it moves the delivery
that it is about and is counted. -/
theorem report_settled (counts : trial.metrics.AreCounts)
    (inside : call.place < trial.deliveries.length) :
    (∃ fault, trial.report call.now call.place call.report = (trial, some fault)) ∨
    ∃ station, trial.deliveries[call.place].move? call.report = some station ∧
      trial.report call.now call.place call.report =
        (trial.moved call.now call.report call.place inside station, none) := by
  rcases trial.report_cases inside with refused | ⟨station, moves, -, counted⟩
  · exact .inl refused
  · exact .inr ⟨station, moves, counted (counts.countable _ station)⟩

theorem report_fault (counts : trial.metrics.AreCounts)
    (inside : call.place < trial.deliveries.length)
    (fault : (trial.report call.now call.place call.report).2.isSome) :
    (trial.report call.now call.place call.report).1 = trial := by
  rcases report_settled counts inside with ⟨_, refused⟩ | ⟨_, -, moved⟩
  · rw [refused]
  · rw [moved] at fault
    cases fault

/-- A report leaves the delivery at a place as it was, or moves it to the station that it takes. -/
theorem report_delivery (counts : trial.metrics.AreCounts)
    (inside : call.place < trial.deliveries.length) (place : Nat) :
    ((trial.report call.now call.place call.report).1.delivery place = trial.delivery place ∧
      trial.stationTaken place call = []) ∨
    ∃ station, (trial.delivery place).move? call.report = some station ∧
      (trial.report call.now call.place call.report).1.delivery place =
        (trial.delivery place).arrive call.now call.report station ∧
      trial.stationTaken place call = [station] := by
  unfold stationTaken
  rcases report_settled counts inside with ⟨fault, refused⟩ | ⟨station, moves, moved⟩
  · simp [refused]
  · rw [moved]
    by_cases here : call.place = place
    · subst here
      have about : trial.delivery call.place = trial.deliveries[call.place] := by
        simp [delivery, inside]
      refine .inr ⟨station, by rw [about, moves], ?_, by simp [move?_wanted moves]⟩
      rw [about]
      simp [delivery, Trial.moved, inside]
    · left
      simp [delivery, Trial.moved, here]

theorem report_counts (counts : trial.metrics.AreCounts)
    (inside : call.place < trial.deliveries.length) :
    (trial.report call.now call.place call.report).1.metrics.AreCounts := by
  rcases report_settled counts inside with ⟨_, refused⟩ | ⟨station, -, moved⟩
  · rw [refused]
    exact counts
  · rw [moved]
    exact counts.count _ station

end

/-- The delivery at a place has taken some stations, and reports may come in, none of them earlier
than what is written on it. -/
structure IsUnderWay (place : Nat) (stations : List DeliveryStatus) (calls : List Call)
    (trial : Trial) : Prop where
  counts : trial.metrics.AreCounts
  inside : ∀ call ∈ calls, call.place < trial.deliveries.length
  ordered : calls.Pairwise fun first second => first.now.instant ≤ second.now.instant
  by_then : ∀ call ∈ calls, (trial.delivery place).IsBy call.now
  taken : HasTaken stations (trial.delivery place)

section
variable {trial : Trial} {place : Nat} {stations : List DeliveryStatus} {call : Call}
  {calls rest earlier later : List Call}

/-- A report takes the delivery on by the station to which it moves it. -/
theorem IsUnderWay.report (onWay : trial.IsUnderWay place stations (call :: rest)) :
    (trial.report call.now call.place call.report).1.IsUnderWay place
      (stations ++ trial.stationTaken place call) rest ∧
    (trial.delivery place).Keeps
      ((trial.report call.now call.place call.report).1.delivery place) := by
  obtain ⟨here, others⟩ := List.forall_mem_cons.mp onWay.inside
  obtain ⟨by_now, by_then⟩ := List.forall_mem_cons.mp onWay.by_then
  obtain ⟨first, ordered⟩ := List.pairwise_cons.mp onWay.ordered
  have inside : ∀ other ∈ rest, other.place <
      (trial.report call.now call.place call.report).1.deliveries.length := by
    rw [trial.report_length here]
    exact others
  have counts := report_counts onWay.counts here
  rcases report_delivery onWay.counts here place with ⟨same, none⟩ | ⟨station, moves, moved, taken⟩
  · rw [same, none, List.append_nil]
    refine ⟨⟨counts, inside, ordered, ?_, ?_⟩, Keeps.refl _⟩
    · rw [same]
      exact by_then
    · rw [same]
      exact onWay.taken
  · rw [moved, taken]
    refine ⟨⟨counts, inside, ordered, ?_, ?_⟩, onWay.taken.keeps call.now moves⟩
    · rw [moved]
      intro other member
      exact by_now.arrive (first other member) call.report station
    · rw [moved]
      exact onWay.taken.arrive by_now moves

theorem IsUnderWay.run (onWay : trial.IsUnderWay place stations (earlier ++ later)) :
    (trial.run earlier).IsUnderWay place (stations ++ trial.stationsTaken place earlier) later ∧
    (trial.delivery place).Keeps ((trial.run earlier).delivery place) := by
  induction earlier generalizing trial stations with
  | nil =>
    rw [stationsTaken, List.append_nil]
    exact ⟨onWay, Keeps.refl _⟩
  | cons call rest ih =>
    obtain ⟨next, kept⟩ := onWay.report
    obtain ⟨reached, keeps⟩ := ih next
    rw [stationsTaken, ← List.append_assoc]
    exact ⟨reached, kept.trans keeps⟩

theorem run_length (inside : ∀ call ∈ calls, call.place < trial.deliveries.length) :
    (trial.run calls).deliveries.length = trial.deliveries.length := by
  induction calls generalizing trial with
  | nil => rfl
  | cons call rest ih =>
    obtain ⟨here, others⟩ := List.forall_mem_cons.mp inside
    have same : (trial.report call.now call.place call.report).1.deliveries.length =
        trial.deliveries.length := trial.report_length here
    exact (ih (by rwa [same])).trans same

/-- A report about a delivery that was delivered or failed is at fault. -/
theorem IsUnderWay.ended (onWay : trial.IsUnderWay place stations calls)
    (ended : .delivered ∈ stations ∨ .failed ∈ stations) (about : call.place = place)
    (inside : call.place < trial.deliveries.length) :
    (trial.report call.now call.place call.report).1 = trial := by
  rcases report_settled onWay.counts inside with ⟨_, refused⟩ | ⟨station, moves, -⟩
  · rw [refused]
  · have here : trial.delivery place = trial.deliveries[call.place] := by
      simp [delivery, ← about, inside]
    rw [← here, onWay.taken.settled ended] at moves
    cases moves

/-- From a delivery of which nothing was reported yet, reports in the order of their times lead along
one of three journeys. The times of sending and of delivery stand on it exactly when it was sent and
delivered, in this order; what is known at any point of the journey stays known at every later one;
once it was delivered or failed no report about it changes anything, and a report that is at fault
never does. -/
theorem run_moves_forward (counts : trial.metrics.AreCounts)
    (fresh : (trial.delivery place).IsFresh)
    (inside : ∀ call ∈ calls, call.place < trial.deliveries.length)
    (ordered : calls.Pairwise fun first second => first.now.instant ≤ second.now.instant) :
    (∃ journey ∈ DeliveryStatus.journeys,
      .queued :: trial.stationsTaken place calls <+: journey) ∧
    station? ((trial.run calls).delivery place).current =
      (.queued :: trial.stationsTaken place calls).getLast? ∧
    ((trial.run calls).delivery place).HasTimesOf (trial.stationsTaken place calls) ∧
    (∀ earlier later, earlier ++ later = calls →
      ((trial.run earlier).delivery place).Keeps ((trial.run calls).delivery place)) ∧
    ∀ call : Call, call.place < trial.deliveries.length →
      (call.place = place → .delivered ∈ trial.stationsTaken place calls ∨
          .failed ∈ trial.stationsTaken place calls →
        ((trial.run calls).report call.now call.place call.report).1 = trial.run calls) ∧
      (((trial.run calls).report call.now call.place call.report).2.isSome →
        ((trial.run calls).report call.now call.place call.report).1 = trial.run calls) := by
  have none_written (now : Moment) : (trial.delivery place).IsBy now := by
    intro sent written
    rw [fresh.sentAt] at written
    cases written
  have start : trial.IsUnderWay place [] calls :=
    ⟨counts, inside, ordered, fun call _ => none_written call.now, .queued fresh⟩
  obtain ⟨reached, -⟩ := (List.append_nil calls ▸ start).run
  rw [List.nil_append] at reached
  refine ⟨reached.taken.journey, reached.taken.station, reached.taken.times, ?_, ?_⟩
  · rintro earlier later rfl
    obtain ⟨halfway, -⟩ := start.run
    rw [run_append]
    exact (List.append_nil later ▸ halfway).run.2
  · intro call here
    rw [← run_length inside] at here
    exact ⟨fun about ended => reached.ended ended about here, report_fault reached.counts here⟩

end

/-- A message whose vendor is known before it is sent. -/
def bookedMessage : Trial := ⟨[{ vendorMessageId := .text "v-1" }], default⟩

/-- A report some minutes after noon. -/
def reported (minute : Fin 60) (status : String) : Call where
  now := ⟨⟨2026, 1, 1, by decide⟩,
    ⟨12, minute, 0, 0, by decide, minute.isLt, by decide, by decide⟩, some .zero⟩
  place := 0
  report := ⟨.text status, .null, .text ""⟩

/-- The message is sent, cannot be sent once more, and is delivered. -/
def sendingTwice : List Call := [reported 0 "sent", reported 1 "sent", reported 2 "delivered"]

theorem bookedMessage_delivered :
    bookedMessage.metrics.AreCounts ∧ (bookedMessage.delivery 0).IsFresh ∧
    (∀ call ∈ sendingTwice, call.place < bookedMessage.deliveries.length) ∧
    sendingTwice.Pairwise (fun first second => first.now.instant ≤ second.now.instant) ∧
    bookedMessage.stationsTaken 0 sendingTwice = [.sent, .delivered] ∧
    ((bookedMessage.run sendingTwice).delivery 0).HasTimesOf [.sent, .delivered] ∧
    ((bookedMessage.run sendingTwice).delivery 0).vendorMessageId = .text "v-1" ∧
    ((bookedMessage.run sendingTwice).report (reported 3 "failed").now 0
      (reported 3 "failed").report).1 = bookedMessage.run sendingTwice := by
  have counts : bookedMessage.metrics.AreCounts := ⟨.inl rfl, .inl rfl, .inl rfl⟩
  have fresh : (bookedMessage.delivery 0).IsFresh := ⟨.inl rfl, rfl, rfl⟩
  have inside : ∀ call ∈ sendingTwice, call.place < bookedMessage.deliveries.length := by
    simp [sendingTwice, reported, bookedMessage]
  have ordered : sendingTwice.Pairwise
      (fun first second => first.now.instant ≤ second.now.instant) := by
    have early : (reported 0 "sent").now.instant ≤ (reported 1 "sent").now.instant := by decide
    have late : (reported 1 "sent").now.instant ≤ (reported 2 "delivered").now.instant := by decide
    simpa [sendingTwice] using ⟨⟨early, Int.le_trans early late⟩, late⟩
  have taken : bookedMessage.stationsTaken 0 sendingTwice = [.sent, .delivered] := by rfl
  obtain ⟨-, -, times, -, later⟩ := run_moves_forward counts fresh inside ordered
  rw [taken] at times later
  refine ⟨counts, fresh, inside, ordered, taken, times, rfl, ?_⟩
  exact (later (reported 3 "failed") (by decide)).1 rfl (.inl (by decide))

end Trial

end Outreach
