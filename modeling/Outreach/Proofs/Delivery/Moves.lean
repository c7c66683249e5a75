import Outreach.Delivery.Trial

/-! The moves of a delivery: which stations follow one another, what a move leaves behind, and what
becomes of deliveries on trial when one report after another comes in. -/

namespace Outreach

namespace Delivery

theorem station?_word (station : DeliveryStatus) :
    station? (Vocabulary.toValue station) = some station :=
  Vocabulary.ofWord?_word station

theorem station?_of_empty {status : Value} (empty : status.isEmpty) : station? status = none := by
  cases status with
  | text s =>
      have blank : s = "" := by simpa [Value.isEmpty] using empty
      subst blank
      decide
  | token op => simp [Value.isEmpty] at empty
  | _ => rfl

theorem station?_current (d : Delivery) :
    station? d.current = if d.status.isEmpty then some .queued else station? d.status := by
  unfold current
  split
  · exact station?_word .queued
  · rfl

/-- A delivery whose status counts as queued is at no other station. -/
theorem station?_status_of_queued {d : Delivery} (queued : station? d.current = some .queued)
    {station : DeliveryStatus} (other : station ≠ .queued) :
    station? d.status ≠ some station := by
  rw [station?_current] at queued
  split at queued
  next empty => simp [station?_of_empty empty]
  next => simpa [queued] using other.symm

theorem station?_status_of_sent {d : Delivery} (sent : station? d.current = some .sent) :
    station? d.status = some .sent := by
  rw [station?_current] at sent
  split at sent
  next => simp at sent
  next => exact sent

/-- The moves that are allowed. -/
theorem move?_cases {d : Delivery} {report : DeliveryReport} {station : DeliveryStatus}
    (moves : d.move? report = some station) :
    (station? d.current = some .queued ∧ (station = .sent ∨ station = .failed)) ∨
    (station? d.current = some .sent ∧ (station = .delivered ∨ station = .failed)) := by
  simp only [move?, bind, Option.bind_eq_some_iff] at moves
  obtain ⟨before, standing, wanted, -, allowed⟩ := moves
  split at allowed
  next follows =>
    cases allowed
    rw [standing]
    revert follows
    cases before <;> cases station <;> decide
  next => simp at allowed

theorem arrive_status (now : Moment) (report : DeliveryReport) (station : DeliveryStatus)
    (d : Delivery) : (d.arrive now report station).status = Vocabulary.toValue station := by
  cases station <;> rfl

theorem station?_arrive (now : Moment) (report : DeliveryReport) (station : DeliveryStatus)
    (d : Delivery) : station? (d.arrive now report station).status = some station := by
  rw [arrive_status, station?_word]

end Delivery

namespace Trial

open Delivery

/-- A report about one of the deliveries on trial. -/
structure Call where
  now : Moment
  place : Nat
  report : DeliveryReport

/-- The deliveries and counters after reports that came in one after the other. -/
def run (trial : Trial) : List Call → Trial
  | [] => trial
  | call :: rest => ((trial.report call.now call.place call.report).1).run rest

/-- What a move makes of a trial whose counters can count it. -/
def moved (trial : Trial) (now : Moment) (report : DeliveryReport) (place : Nat)
    (inside : place < trial.deliveries.length) (station : DeliveryStatus) : Trial :=
  ⟨trial.deliveries.set place (trial.deliveries[place].arrive now report station),
    count trial.deliveries[place].current station trial.metrics⟩

/-- A report changes nothing and is at fault, or it moves the delivery that it is about. -/
theorem report_cases (trial : Trial) {now : Moment} {place : Nat} {report : DeliveryReport}
    (inside : place < trial.deliveries.length) :
    (∃ fault, trial.report now place report = (trial, some fault)) ∨
    ∃ station, trial.deliveries[place].move? report = some station ∧
      (trial.report now place report).1.deliveries =
        (trial.moved now report place inside station).deliveries ∧
      (isCountable trial.deliveries[place].current station trial.metrics →
        trial.report now place report = (trial.moved now report place inside station, none)) := by
  have about : trial.deliveries.getD place {} = trial.deliveries[place] := by simp [inside]
  simp only [Trial.report, about, advance]
  by_cases unusable : (!trial.deliveries[place].current.isHashable ||
      !isSearchable report.status) = true
  · simp only [unusable, if_true]
    exact .inl ⟨_, rfl⟩
  · simp only [unusable, Bool.false_eq_true, if_false]
    cases moves : trial.deliveries[place].move? report with
    | none => exact .inl ⟨_, rfl⟩
    | some station =>
        refine .inr ⟨station, rfl, ?_, ?_⟩
        · dsimp only
          split <;> rfl
        · intro countable
          simp only [station?_arrive, Option.map_some, Option.getD_some, countable, if_true, moved]

theorem report_length (trial : Trial) {now : Moment} {place : Nat} {report : DeliveryReport}
    (inside : place < trial.deliveries.length) :
    (trial.report now place report).1.deliveries.length = trial.deliveries.length := by
  rcases trial.report_cases inside with ⟨fault, unchanged⟩ | ⟨station, -, arrived, -⟩
  · rw [unchanged]
  · rw [arrived, moved, List.length_set]

end Trial

end Outreach
