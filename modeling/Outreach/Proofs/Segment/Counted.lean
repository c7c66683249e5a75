import Outreach.Proofs.Audience.Agreement
import Outreach.Proofs.Segment.Stored

/-! The audience that is kept with a segment. It is counted when the segment is stored, when its
rules change and when a recount is asked for, in the table of customers as it is then; and nothing
else changes it or the time that stands beside it. So after any run of requests it is what was
counted at the last request that did one of these three things. -/

namespace Outreach

open Api
open Audience (includes matching)

/-! ### Rules that are compared -/

/-- The audience that is kept with a segment was counted among customers at a time: all of them
could be judged by the segment's rules, and so many of them belong. -/
structure Segment.IsCounted (segment : Segment) (customers : List Customer) (now : Moment) :
    Prop where
  judged : ∀ customer ∈ customers,
    ∃ answer, Audience.isMember segment.rules customer = .ok answer
  audience : segment.estimatedAudience = (matching [] segment.rules customers).length
  time : segment.lastUpdated = now.wallClock

/-- Two rows hold the same rules and the same count from the same time. -/
structure Segment.SharesCount (row segment : Segment) : Prop where
  rules : segment.rules = row.rules
  audience : segment.estimatedAudience = row.estimatedAudience
  time : segment.lastUpdated = row.lastUpdated

theorem Segment.SharesCount.refl (segment : Segment) : segment.SharesCount segment :=
  ⟨rfl, rfl, rfl⟩

section
variable {env : Environment} {db : Database} {segment : Segment} {now : Moment} {audience : Nat}

theorem recount_counted {counted : Segment}
    (made : Segments.recount env.settings.batchSize db now segment = .ok counted) :
    counted.id = segment.id ∧ counted.IsCounted db.customers.rows now := by
  obtain ⟨audience, found, rfl⟩ := Segments.recount_ok made
  obtain ⟨judged, total⟩ := Audience.judged_of_count found
  exact ⟨rfl, judged, congrArg Int.ofNat total, rfl⟩

end

/-! ### Where the segments of a database come from -/

/-- A segment of the database after a write: one that holds what it held, a new one that was
counted, one with other rules that was counted, or the one that the action asks to recompute. -/
inductive Segments.Origin (env : Environment) (db : Database) (action : Action) :
    Segment → Prop where
  | kept {row segment : Segment} (member : row ∈ db.segments.rows) (named : segment.id = row.id)
      (shares : row.SharesCount segment) : Segments.Origin env db action segment
  | made {segment : Segment} (fresh : ∀ row ∈ db.segments.rows, row.id ≠ segment.id)
      (counted : segment.IsCounted db.customers.rows env.now) : Segments.Origin env db action segment
  | ruled {row segment : Segment} (member : row ∈ db.segments.rows) (named : segment.id = row.id)
      (differ : segment.rules.isSame row.rules = false)
      (counted : segment.IsCounted db.customers.rows env.now) : Segments.Origin env db action segment
  | recounted {segment : Segment} (asked : action = .recomputeSegment segment.id) :
      Segments.Origin env db action segment

theorem Segments.Origin.same {env : Environment} {db : Database} {action : Action}
    {segment : Segment} (member : segment ∈ db.segments.rows) :
    Segments.Origin env db action segment := .kept member rfl (.refl segment)

namespace Api

/-- A visit is carried out to recompute a segment. -/
def Visit.Recomputes (visit : Visit) (db : Database) (id : Int) : Prop :=
  ∃ user effect, visit.Carries db user (.recomputeSegment id) ∧
    (Action.recomputeSegment id).perform visit.environment db user = .ok effect

/-- A visit has the audience of a segment counted: it stores the segment under a number that no
segment had, or other rules under its number, or it recomputes the segment. -/
inductive Visit.Refreshes (visit : Visit) (db : Database) (id : Int) : Prop where
  | stores {segment : Segment} (fresh : ∀ row ∈ db.segments.rows, row.id ≠ id)
      (stored : segment ∈ (visited db visit).segments.rows) (named : segment.id = id) :
      Visit.Refreshes visit db id
  | changesRules {row segment : Segment} (old : row ∈ db.segments.rows) (before : row.id = id)
      (stored : segment ∈ (visited db visit).segments.rows) (named : segment.id = id)
      (differ : segment.rules ≠ row.rules) : Visit.Refreshes visit db id
  | recomputes (recomputes : visit.Recomputes db id) : Visit.Refreshes visit db id

section
variable {db : Database} {visit : Visit} {segment row : Segment}

/-- A visit makes the write of an action that is carried out, or changes no more than the users. -/
theorem visited_cases (db : Database) (visit : Visit) :
    (∃ user action effect, visit.Carries db user action ∧
      action.perform visit.environment db user = .ok effect ∧
      Write visit.environment db user action (visited db visit)) ∨
    ∃ users, visited db visit = { db with users } := by
  have change := respond_change visit.environment db visit.request
  generalize same : (respond visit.environment db visit.request).database = written at change
  have left : visited db visit = written := same
  cases change with
  | nothing => exact .inr ⟨db.users, left⟩
  | signIn upserted =>
    obtain ⟨users, stored⟩ := upsert_users upserted
    exact .inr ⟨users, left.trans stored⟩
  | @action user action _ carries write =>
    cases performed : action.perform visit.environment db user with
    | ok effect => exact .inl ⟨user, action, effect, carries, performed, left ▸ write⟩
    | error halt =>
      have answered := respond_of_carries carries
      rw [performed] at answered
      refine .inr ⟨db.users, ?_⟩
      rw [visited, answered]
      cases halt <;> rfl

/-- What a visit that recomputes a segment leaves under its number. -/
theorem Visit.Recomputes.counted (recomputes : visit.Recomputes db segment.id)
    (stored : segment ∈ (visited db visit).segments.rows) :
    segment.IsCounted db.customers.rows visit.environment.now := by
  obtain ⟨user, effect, carries, performed⟩ := recomputes
  obtain ⟨inner, made, same⟩ := tell_ok performed
  obtain ⟨row, got, rest⟩ := bind_eq_ok_iff.mp made
  obtain ⟨counted, recounted, rest⟩ := bind_eq_ok_iff.mp rest
  cases rest
  have named := (Table.find?_eq_some_iff.mp (Table.get_eq_ok_iff.mp got).2).2
  obtain ⟨kept, isCounted⟩ := recount_counted (mapError_eq_ok_iff.mp recounted)
  rw [visited_of_carries carries performed, ← same] at stored
  rcases Table.mem_replace_iff.mp stored with ⟨-, other⟩ | ⟨rfl, -⟩
  · exact absurd (named.symm.trans kept.symm) other
  · exact isCounted

end

/-! ### Runs -/

/-- Of the visits of a run, one that has the audience of a segment counted and is followed by none
that does. -/
structure IsLastRefresh (start : Database) (early : List Visit) (visit : Visit)
    (late : List Visit) (id : Int) : Prop where
  refreshes : visit.Refreshes (run start early) id
  last : ∀ between later, between ++ [later] <+: late →
    ¬ later.Refreshes (run start (early ++ visit :: between)) id

theorem IsLastRefresh.append {start : Database} {early late : List Visit} {visit last : Visit}
    {id : Int} (before : IsLastRefresh start early visit late id)
    (idle : ¬ last.Refreshes (run start (early ++ visit :: late)) id) :
    IsLastRefresh start early visit (late ++ [last]) id where
  refreshes := before.refreshes
  last between later within := by
    rcases List.prefix_concat_iff.mp within with whole | earlier
    · obtain ⟨rfl, same⟩ := List.append_inj' whole rfl
      cases same
      exact idle
    · exact before.last between later earlier

theorem run_concat (start : Database) (visits : List Visit) (last : Visit) :
    run start (visits ++ [last]) = visited (run start visits) last := run_append start visits [last]

end Api

end Outreach
