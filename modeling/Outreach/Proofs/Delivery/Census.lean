import Outreach.Proofs.Delivery.Moves

/-! A campaign's counters against a census of its deliveries. Every move keeps the sent, delivered
and failed counters equal to the numbers of deliveries that they stand for, whichever reports come
in and in whatever order. -/

namespace Outreach

theorem Decimal.compare?_ofInt_zero (n : Nat) :
    Decimal.compare? (Decimal.ofInt n) (Decimal.ofInt 0) ≠ some .lt := by
  cases n with
  | zero => decide
  | succ n =>
      have positive : ¬((n : Int) + 1 < 0) := by omega
      have nonzero : ((n : Int) + 1).natAbs ≠ 0 := by omega
      simp [Decimal.compare?, Decimal.ofInt, positive, nonzero]

namespace Value

/-- The counter stands for the number. Where nothing was ever counted it may still be what it was
at the start; otherwise it is the number itself. -/
def Tells (start : Value) (n : Nat) (counter : Value) : Prop :=
  counter.counted = int n ∧ (counter = int n ∨ counter = start)

@[simp] theorem counted_int (n : Int) : (int n).counted = int n := by
  unfold counted
  split
  next empty =>
    have zero : n = 0 := by simpa [isEmpty] using empty
    rw [zero]
  next => rfl

theorem counted_of_empty {v : Value} (empty : v.isEmpty) : v.counted = int 0 := by
  simp [counted, empty]

theorem raised?_of_counted {v : Value} {n : Nat} (counts : v.counted = int n) :
    v.raised? = some (int (n + 1 : Nat)) := by
  simp [raised?, counts, plus?]

/-- Lowering a count that is not zero takes one off: the bound at zero has nothing to do. -/
theorem lowered?_of_counted {v : Value} {n : Nat} (counts : v.counted = int (n + 1 : Nat)) :
    v.lowered? = some (int n) := by
  have less : ((n + 1 : Nat) : Int) + -1 = n := by omega
  have whole : (int (n : Int)).isNegative = false := by
    simpa [isNegative, asNumber?] using Decimal.compare?_ofInt_zero n
  simp only [lowered?, counts, plus?, less, Option.map_some, whole, Bool.false_eq_true, if_false]

theorem tells_of_empty {start : Value} (empty : start.isEmpty) : Tells start 0 start :=
  ⟨counted_of_empty empty, .inr rfl⟩

theorem Tells.raise {start counter : Value} {n : Nat} (tells : Tells start n counter) :
    Tells start (n + 1) (Counter.raise counter) := by
  have raised : Counter.raise counter = int (n + 1 : Nat) := by
    simp only [Counter.raise, raised?_of_counted tells.1, Option.getD_some]
  rw [raised]
  exact ⟨counted_int _, .inl rfl⟩

theorem Tells.lower {start counter : Value} {n : Nat} (tells : Tells start (n + 1) counter) :
    Tells start n (Counter.lower counter) := by
  have lowered : Counter.lower counter = int n := by
    simp only [Counter.lower, lowered?_of_counted tells.1, Option.getD_some]
  rw [lowered]
  exact ⟨counted_int _, .inl rfl⟩

end Value

namespace Delivery

/-- How many deliveries are at a station. -/
def census (station : DeliveryStatus) (deliveries : List Delivery) : Nat :=
  deliveries.countP fun d => station? d.status = some station

theorem census_eq_zero {station : DeliveryStatus} {deliveries : List Delivery}
    (absent : ∀ d ∈ deliveries, station? d.status ≠ some station) :
    census station deliveries = 0 := by
  simpa [census, List.countP_eq_zero] using absent

theorem census_pos {station : DeliveryStatus} {deliveries : List Delivery} {d : Delivery}
    (member : d ∈ deliveries) (standing : station? d.status = some station) :
    0 < census station deliveries :=
  List.countP_pos_iff.mpr ⟨d, member, by simpa using standing⟩

/-- A move takes a delivery from the station where it stood to the one where it arrives. -/
theorem census_arrive {deliveries : List Delivery} {place : Nat}
    (inside : place < deliveries.length) (now : Moment) (report : DeliveryReport)
    (arrived station : DeliveryStatus) :
    census station (deliveries.set place (deliveries[place].arrive now report arrived)) +
        (if station? deliveries[place].status = some station then 1 else 0) =
      census station deliveries + (if arrived = station then 1 else 0) := by
  unfold census
  rw [List.countP_set inside, station?_arrive]
  have counted := List.boole_getElem_le_countP (p := fun d => station? d.status = some station) inside
  simp only [decide_eq_true_eq, Option.some.injEq] at counted ⊢
  omega

theorem census_arrive_queued {deliveries : List Delivery} {place : Nat}
    (inside : place < deliveries.length) (now : Moment) (report : DeliveryReport)
    (arrived : DeliveryStatus) (queued : station? deliveries[place].current = some .queued)
    (station : DeliveryStatus) (other : station ≠ .queued) :
    census station (deliveries.set place (deliveries[place].arrive now report arrived)) =
      census station deliveries + (if arrived = station then 1 else 0) := by
  have moved := census_arrive inside now report arrived station
  rwa [if_neg (station?_status_of_queued queued other), Nat.add_zero] at moved

theorem census_arrive_sent {deliveries : List Delivery} {place : Nat}
    (inside : place < deliveries.length) (now : Moment) (report : DeliveryReport)
    (arrived : DeliveryStatus) (sent : station? deliveries[place].current = some .sent)
    (station : DeliveryStatus) :
    census station (deliveries.set place (deliveries[place].arrive now report arrived)) +
        (if station = .sent then 1 else 0) =
      census station deliveries + (if arrived = station then 1 else 0) := by
  have moved := census_arrive inside now report arrived station
  simpa [station?_status_of_sent sent, eq_comm] using moved

end Delivery

namespace Trial

open Delivery

/-- Deliveries of which none has begun, in a campaign that has counted nothing. -/
structure IsUnsent (trial : Trial) : Prop where
  queued : ∀ d ∈ trial.deliveries,
    d.status.isEmpty ∨ d.status = Vocabulary.toValue DeliveryStatus.queued
  sent : trial.metrics.sent.isEmpty
  delivered : trial.metrics.delivered.isEmpty
  failed : trial.metrics.failed.isEmpty

/-- The counters tell how many deliveries there are at the stations that they count. A delivered
message still counts as sent, and the counters of other things are what they were at the start. -/
structure Balanced (start : Metrics Value) (trial : Trial) : Prop where
  sent : Value.Tells start.sent
    (census .sent trial.deliveries + census .delivered trial.deliveries) trial.metrics.sent
  delivered :
    Value.Tells start.delivered (census .delivered trial.deliveries) trial.metrics.delivered
  failed : Value.Tells start.failed (census .failed trial.deliveries) trial.metrics.failed
  others : { trial.metrics with
    sent := start.sent, delivered := start.delivered, failed := start.failed } = start

theorem IsUnsent.census_eq_zero {trial : Trial} (unsent : trial.IsUnsent) {station : DeliveryStatus}
    (counted : station ≠ .queued) : census station trial.deliveries = 0 := by
  apply Delivery.census_eq_zero
  intro d member
  rcases unsent.queued d member with empty | queued
  · simp [station?_of_empty empty]
  · rw [queued, station?_word]
    simpa using counted.symm

theorem IsUnsent.balanced {trial : Trial} (unsent : trial.IsUnsent) :
    Balanced trial.metrics trial where
  sent := by
    rw [unsent.census_eq_zero (by decide), unsent.census_eq_zero (by decide)]
    exact Value.tells_of_empty unsent.sent
  delivered := by
    rw [unsent.census_eq_zero (by decide)]
    exact Value.tells_of_empty unsent.delivered
  failed := by
    rw [unsent.census_eq_zero (by decide)]
    exact Value.tells_of_empty unsent.failed
  others := rfl

/-- A delivery that was sent is among those that the sent counter tells of. -/
theorem Balanced.counts_sent {start : Metrics Value} {trial : Trial}
    (balanced : Balanced start trial) {d : Delivery} (member : d ∈ trial.deliveries)
    (sent : station? d.status = some .sent) :
    ∃ n : Nat, trial.metrics.sent.counted = .int (n + 1 : Nat) := by
  have positive := census_pos member sent
  refine ⟨census .sent trial.deliveries + census .delivered trial.deliveries - 1, ?_⟩
  rw [balanced.sent.1, show census .sent trial.deliveries + census .delivered trial.deliveries =
    census .sent trial.deliveries + census .delivered trial.deliveries - 1 + 1 by omega]
  rfl

/-- Every counter that a move changes is a number. -/
theorem Balanced.countable {start : Metrics Value} {trial : Trial}
    (balanced : Balanced start trial) {d : Delivery} (member : d ∈ trial.deliveries)
    (station : DeliveryStatus) : isCountable d.current station trial.metrics := by
  cases station with
  | queued => rfl
  | sent => simp [isCountable, Value.raised?_of_counted balanced.sent.1]
  | delivered => simp [isCountable, Value.raised?_of_counted balanced.delivered.1]
  | failed =>
      simp only [isCountable, Value.raised?_of_counted balanced.failed.1, Option.isSome_some,
        Bool.true_and, Bool.or_eq_true, decide_eq_true_eq]
      by_cases standing : station? d.current = some .sent
      · obtain ⟨n, counts⟩ := balanced.counts_sent member (station?_status_of_sent standing)
        exact .inr (by simp [Value.lowered?_of_counted counts])
      · exact .inl standing

theorem Balanced.moved_of_queued {start : Metrics Value} {trial : Trial}
    (balanced : Balanced start trial) {place : Nat} (inside : place < trial.deliveries.length)
    (now : Moment) (report : DeliveryReport) {station : DeliveryStatus}
    (queued : station? trial.deliveries[place].current = some .queued)
    (follows : station = .sent ∨ station = .failed) :
    Balanced start (trial.moved now report place inside station) := by
  have gained := census_arrive_queued inside now report station queued
  rcases follows with rfl | rfl
  · have atSent : census .sent _ = census .sent trial.deliveries + 1 := gained .sent (by decide)
    have atDelivered : census .delivered _ = census .delivered trial.deliveries :=
      gained .delivered (by decide)
    have atFailed : census .failed _ = census .failed trial.deliveries := gained .failed (by decide)
    refine ⟨?_, ?_, ?_, balanced.others⟩ <;> unfold moved
    · rw [atSent, atDelivered, Nat.add_right_comm]
      exact balanced.sent.raise
    · rw [atDelivered]
      exact balanced.delivered
    · rw [atFailed]
      exact balanced.failed
  · have atSent : census .sent _ = census .sent trial.deliveries := gained .sent (by decide)
    have atDelivered : census .delivered _ = census .delivered trial.deliveries :=
      gained .delivered (by decide)
    have atFailed : census .failed _ = census .failed trial.deliveries + 1 :=
      gained .failed (by decide)
    refine ⟨?_, ?_, ?_, balanced.others⟩ <;> unfold moved
    · rw [atSent, atDelivered]
      simpa only [count, queued, reduceCtorEq, Option.some.injEq, if_false] using balanced.sent
    · rw [atDelivered]
      exact balanced.delivered
    · rw [atFailed]
      exact balanced.failed.raise

/-- A message that failed after it was sent is taken off the sent counter, which it was counted in;
one that was delivered stays there. -/
theorem Balanced.moved_of_sent {start : Metrics Value} {trial : Trial}
    (balanced : Balanced start trial) {place : Nat} (inside : place < trial.deliveries.length)
    (now : Moment) (report : DeliveryReport) {station : DeliveryStatus}
    (sent : station? trial.deliveries[place].current = some .sent)
    (follows : station = .delivered ∨ station = .failed) :
    Balanced start (trial.moved now report place inside station) := by
  have shifted := census_arrive_sent inside now report station sent
  rcases follows with rfl | rfl
  · have atSent : census .sent _ + 1 = census .sent trial.deliveries := shifted .sent
    have atDelivered : census .delivered _ = census .delivered trial.deliveries + 1 :=
      shifted .delivered
    have atFailed : census .failed _ = census .failed trial.deliveries := shifted .failed
    refine ⟨?_, ?_, ?_, balanced.others⟩ <;> unfold moved
    · rw [atDelivered, ← Nat.add_assoc, Nat.add_right_comm, atSent]
      exact balanced.sent
    · rw [atDelivered]
      exact balanced.delivered.raise
    · rw [atFailed]
      exact balanced.failed
  · have atSent : census .sent _ + 1 = census .sent trial.deliveries := shifted .sent
    have atDelivered : census .delivered _ = census .delivered trial.deliveries :=
      shifted .delivered
    have atFailed : census .failed _ = census .failed trial.deliveries + 1 := shifted .failed
    refine ⟨?_, ?_, ?_, balanced.others⟩ <;> unfold moved
    · have before := balanced.sent
      rw [← atSent, Nat.add_right_comm] at before
      rw [atDelivered]
      simpa only [count, sent, if_true] using before.lower
    · rw [atDelivered]
      exact balanced.delivered
    · rw [atFailed]
      exact balanced.failed.raise

/-- A report keeps the counters equal to the census, whether it is accepted or not. -/
theorem Balanced.report {start : Metrics Value} {trial : Trial} (balanced : Balanced start trial)
    {place : Nat} (inside : place < trial.deliveries.length) (now : Moment)
    (report : DeliveryReport) : Balanced start (trial.report now place report).1 := by
  rcases trial.report_cases inside with ⟨fault, unchanged⟩ | ⟨station, moves, -, counted⟩
  · rw [unchanged]
    exact balanced
  · rw [counted (balanced.countable (List.getElem_mem inside) station)]
    rcases move?_cases moves with ⟨queued, follows⟩ | ⟨sent, follows⟩
    · exact balanced.moved_of_queued inside now report queued follows
    · exact balanced.moved_of_sent inside now report sent follows

theorem Balanced.run {start : Metrics Value} {trial : Trial} {calls : List Call}
    (balanced : Balanced start trial)
    (inside : ∀ call ∈ calls, call.place < trial.deliveries.length) :
    Balanced start (trial.run calls) := by
  induction calls generalizing trial with
  | nil => exact balanced
  | cons call rest ih =>
      rw [List.forall_mem_cons] at inside
      refine ih (balanced.report inside.1 call.now call.report) ?_
      rw [trial.report_length inside.1]
      exact inside.2

/-- Whatever is reported about deliveries of which none had begun, and in whatever order, the sent
counter tells how many were sent or delivered, the delivered counter how many were delivered and the
failed counter how many failed; no other counter changes. Taking back a sent message never comes up
against the bound at zero. -/
theorem run_counters_census {trial : Trial} (unsent : trial.IsUnsent) (calls : List Call)
    (inside : ∀ call ∈ calls, call.place < trial.deliveries.length) :
    Balanced trial.metrics (trial.run calls) ∧
    ∀ d ∈ (trial.run calls).deliveries, station? d.status = some .sent →
      (trial.run calls).metrics.sent.lowered? =
        (trial.run calls).metrics.sent.counted.plus? (-1) := by
  have balanced := unsent.balanced.run inside
  refine ⟨balanced, ?_⟩
  intro d member sent
  obtain ⟨n, counts⟩ := balanced.counts_sent member sent
  have less : ((n + 1 : Nat) : Int) + -1 = n := by omega
  rw [Value.lowered?_of_counted counts, counts, Value.plus?, less]

/-- Two messages of a campaign: one is queued and of the other nothing is known. -/
def twoMessages : Trial where
  deliveries := [{ status := .text "queued" }, {}]
  metrics := { (default : Metrics Value) with delivered := .int 0 }

/-- Both messages are sent; then the first fails, cannot be sent once more, and the second one is
delivered. -/
def bounceAndDelivery : List Call :=
  [⟨default, 0, ⟨.text "sent", .null, .null⟩⟩, ⟨default, 1, ⟨.text "sent", .null, .null⟩⟩,
    ⟨default, 0, ⟨.text "failed", .null, .null⟩⟩, ⟨default, 0, ⟨.text "sent", .null, .null⟩⟩,
    ⟨default, 1, ⟨.text "delivered", .null, .null⟩⟩]

theorem twoMessages_counted :
    twoMessages.IsUnsent ∧
    (∀ call ∈ bounceAndDelivery, call.place < twoMessages.deliveries.length) ∧
    Balanced twoMessages.metrics (twoMessages.run bounceAndDelivery) ∧
    (twoMessages.run bounceAndDelivery).metrics.sent = .int 1 ∧
    (twoMessages.run bounceAndDelivery).metrics.delivered = .int 1 ∧
    (twoMessages.run bounceAndDelivery).metrics.failed = .int 1 := by
  have unsent : twoMessages.IsUnsent := by
    refine ⟨?_, rfl, rfl, rfl⟩
    intro d member
    simp only [twoMessages, List.mem_cons, List.not_mem_nil, or_false] at member
    rcases member with rfl | rfl
    · exact .inr rfl
    · exact .inl rfl
  have inside : ∀ call ∈ bounceAndDelivery, call.place < twoMessages.deliveries.length := by
    simp [bounceAndDelivery, twoMessages]
  exact ⟨unsent, inside, (run_counters_census unsent bounceAndDelivery inside).1, rfl, rfl, rfl⟩

end Trial

end Outreach
