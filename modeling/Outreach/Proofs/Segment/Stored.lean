import Outreach.Proofs.Api.Body
import Outreach.Proofs.Rule.Declared

/-! The rules of stored segments. They come in as JSON and are stored in normal form, so whatever
the requests, every stored segment holds rules that are read back as they are and name fields of
customers only; and such rules fail on a customer of declared types in one way at most. -/

namespace Outreach

open Api

/-! ### From the body of a request to rules -/

theorem rules_accepted {written rules : Value}
    (read : Schema.rules [] written = .accepted rules) :
    Rule.normalForm [] written = .ok rules := by
  unfold Schema.rules at read
  split at read
  next normal =>
    cases read
    exact normal
  next => cases read

theorem draft_rules {value : Value} {draft : SegmentDraft} (json : IsJson value)
    (read : SegmentDraft.read [] .request value = .accepted draft) :
    ∃ written, Value.IsPart written value ∧ Rule.normalForm [] written = .ok draft.rules := by
  obtain ⟨entries, rfl, built⟩ := Schema.record_of_json json read
  obtain ⟨f, rules, titled, ruled, rfl⟩ := Checked.seq_eq_accepted_iff.mp built
  obtain ⟨g, description, named, -, rfl⟩ := Checked.seq_eq_accepted_iff.mp titled
  obtain ⟨name, -, rfl⟩ := Checked.map_eq_accepted_iff.mp named
  obtain ⟨written, held, accepted⟩ := Schema.required_accepted ruled
  exact ⟨written, Value.lookup_part held, rules_accepted accepted⟩

/-- The rules of a change are the normal form of what is written under their name. -/
theorem change_written {value : Value} {change : SegmentChange} (json : IsJson value)
    (read : SegmentChange.read [] .request value = .accepted change) {rules : Value}
    (given : change.rules = .given (some rules)) :
    ∃ entries written, value = .dict entries ∧ Value.lookup entries "rules" = some written ∧
      Rule.normalForm [] written = .ok rules := by
  obtain ⟨entries, rfl, built⟩ := Schema.record_of_json json read
  obtain ⟨f, entry, titled, ruled, rfl⟩ := Checked.seq_eq_accepted_iff.mp built
  obtain ⟨g, description, named, -, rfl⟩ := Checked.seq_eq_accepted_iff.mp titled
  obtain ⟨name, -, rfl⟩ := Checked.map_eq_accepted_iff.mp named
  cases given
  obtain ⟨written, held, accepted⟩ := Schema.permitted_given ruled
  exact ⟨entries, written, rfl, held, rules_accepted (Schema.nullable_some accepted)⟩

theorem change_rules {value : Value} {change : SegmentChange} (json : IsJson value)
    (read : SegmentChange.read [] .request value = .accepted change) {rules : Value}
    (given : change.rules = .given (some rules)) :
    ∃ written, Value.IsPart written value ∧ Rule.normalForm [] written = .ok rules := by
  obtain ⟨entries, written, rfl, held, normal⟩ := change_written json read given
  exact ⟨written, Value.lookup_part held, normal⟩

/-! ### Stored segments -/

/-- Rules that are stored: they are the normal form of a rule. -/
def IsStored (rules : Value) : Prop := ∃ rule, Rule.IsNormal rules rule

/-- Every segment of the database has rules in normal form. -/
def HasNormalRules (db : Database) : Prop := ∀ segment ∈ db.segments.rows, IsStored segment.rules

theorem stored_of_normalForm {written rules : Value} (json : IsJson written)
    (normal : Rule.normalForm [] written = .ok rules) : IsStored rules := by
  obtain ⟨rule, -, stored⟩ := Rule.normalForm_ok (Rule.json_unread json) normal
  exact ⟨rule, stored⟩

/-- A segment after a write has the rules of one before it, or the normal form of rules that the
request brought as JSON. -/
theorem rules_cases {env : Environment} {db : Database} {request : Http.Request} {user : User}
    {action : Action} {written : Database} (carries : Carries env db request user action)
    (write : Write env db user action written) {segment : Segment}
    (member : segment ∈ written.segments.rows) :
    (∃ row ∈ db.segments.rows, segment.rules = row.rules) ∨
      ∃ raw, IsDocument raw ∧ Rule.normalForm [] raw = .ok segment.rules := by
  obtain ⟨task, arguments, body, -, content, read⟩ := carries.read
  cases write with
  | createSegment counted =>
    obtain ⟨value, given, accepted⟩ := told_of_read read
    cases given
    have document := bodyFor_isDocument content
    obtain ⟨raw, placed, normal⟩ := draft_rules document.1 accepted
    rcases Table.mem_insert_iff.mp member with old | rfl
    · exact .inl ⟨segment, old, rfl⟩
    · exact .inr ⟨raw, document.part placed, normal⟩
  | @updateSegment _ change row ruled name found kept given named =>
    have old := (Table.find?_eq_some_iff.mp found).1
    rcases Table.mem_replace_iff.mp member with ⟨other, -⟩ | ⟨rfl, -⟩
    · exact .inl ⟨segment, other, rfl⟩
    · rcases Segments.ruled_cases kept given with rfl | ⟨rules, audience, brought, -, -, rfl⟩
      · exact .inl ⟨ruled, old, rfl⟩
      · obtain ⟨value, provided, accepted⟩ := told_of_read read
        cases provided
        have document := bodyFor_isDocument content
        obtain ⟨raw, placed, normal⟩ := change_rules document.1 accepted brought
        exact .inr ⟨raw, document.part placed, normal⟩
  | deleteSegment found unused =>
    exact .inl ⟨segment, (Table.mem_delete_iff.mp member).1, rfl⟩
  | @recomputeSegment id row counted found recounted =>
    rcases Table.mem_replace_iff.mp member with ⟨other, -⟩ | ⟨rfl, -⟩
    · exact .inl ⟨segment, other, rfl⟩
    · obtain ⟨audience, -, rfl⟩ := Segments.recount_ok recounted
      exact .inl ⟨row, (Table.find?_eq_some_iff.mp found).1, rfl⟩
  | createCustomer | importCustomers | updateCustomer | deleteCustomer | createOrder
  | createCampaign | updateCampaign | deleteCampaign | sendCampaign | recordReceipt =>
    exact .inl ⟨segment, member, rfl⟩

/-- What holds of the normal forms of rules in JSON is kept by every request. -/
theorem rules_kept {holds : Value → Prop}
    (normal : ∀ raw rules, IsDocument raw → Rule.normalForm [] raw = .ok rules → holds rules) :
    IsKept fun db => ∀ segment ∈ db.segments.rows, holds segment.rules where
  users _ _ before := before
  writes env db request user action written before carries write segment member := by
    rcases rules_cases carries write member with ⟨row, old, same⟩ | ⟨raw, document, made⟩
    · rw [same]
      exact before row old
    · exact normal raw segment.rules document made

theorem hasNormalRules_kept : IsKept HasNormalRules :=
  rules_kept fun _ _ document normal => stored_of_normalForm document.1 normal

/-- Who makes a segment leaves it in the database, with the audience that was counted. -/
theorem Api.visited_createSegment {db : Database} {visit : Visit} {user : User}
    {draft : SegmentDraft} {audience : Nat} (carries : visit.Carries db user (.createSegment draft))
    (counted : Segments.count visit.environment.settings db draft.rules = .ok audience) :
    visited db visit = { db with
      segments := db.segments.insert
        (Segments.newRow visit.environment.now user.id draft audience) } := by
  have performed : ∃ answer, Action.perform visit.environment db user (.createSegment draft) =
      .ok ⟨{ db with
        segments := db.segments.insert
          (Segments.newRow visit.environment.now user.id draft audience) }, answer⟩ := by
    show ∃ answer, tell 201 _ (Segments.create visit.environment.settings db visit.environment.now
      user.id draft) = .ok ⟨_, answer⟩
    unfold Segments.create
    rw [counted]
    exact ⟨_, rfl⟩
  obtain ⟨answer, performed⟩ := performed
  exact visited_of_carries carries performed

/-! ### A segment -/

namespace Api.Sample

/-- A rule as a user writes it. -/
def writtenRules (condition : String) : Value := .dict [
  (.text "condition", .text condition),
  (.text "rules", .list [.dict [
    (.text "field", .text "visits"), (.text "operator", .text ">="), (.text "value", .int 3)]])]

def rules : Value := writtenRules "OR"

def segmentDraft : SegmentDraft := ⟨"Regulars", .absent, rules⟩

def segmentBody : String :=
  "\x7b\"name\":\"Regulars\",\"rules\":\x7b\"condition\":\"or\",\"rules\":[" ++
    "\x7b\"field\":\"visits\",\"operator\":\">=\",\"value\":3\x7d]\x7d\x7d"

def segmentVisit : Visit := visit "POST" "/api/segments" segmentBody

/-- The database after the user has made a segment. -/
def withSegment : Database :=
  { start with
    segments := start.segments.insert (Segments.newRow environment.now user.id segmentDraft 0) }

set_option maxRecDepth 2000 in
theorem jsonContent_segmentBody : jsonContent segmentBody =
    .ok (.dict [(.text "name", .text "Regulars"), (.text "rules", writtenRules "or")]) := by
  cbv

theorem segmentVisit_carries : segmentVisit.Carries start user (.createSegment segmentDraft) :=
  carries rfl (by decide) ⟨.createSegment, [], .given _, by cbv,
    bodyFor_visit rfl (by decide +kernel) jsonContent_segmentBody, by rfl⟩

theorem segment_made : visited start segmentVisit = withSegment :=
  visited_of_carries segmentVisit_carries (by rfl)

end Api.Sample

/-! ### All runs -/

/-- After any run of requests from a database of users alone, the rules of every segment are read,
are written again as they stand, are nested no deeper than is read and name known fields only. And
rules written in JSON that have a normal form come on every customer of declared types to a verdict
or to the error that types do not go together. -/
theorem run_rules_normal :
    (∀ start, HoldsOnlyUsers start → ∀ visits, ∀ segment ∈ (run start visits).segments.rows,
      ∃ rule, Rule.parse segment.rules Rule.rootPath = .ok rule ∧ rule.toValue = segment.rules ∧
        rule.depth ≤ Rule.maxDepth ∧
        ∀ name ∈ rule.names, ∃ field, Registry.standard.resolve (.ofFieldName name) = .ok field) ∧
    ∀ written normal, IsJson written → Rule.normalForm [] written = .ok normal →
      ∀ profile : Profile, profile.IsDeclared →
        (∃ verdict, Rule.matchesWritten Registry.standard [] written profile.subject =
          .ok verdict) ∨
        ∃ e, Rule.matchesWritten Registry.standard [] written profile.subject = .error (.rule e) ∧
          e.kind = .typeMismatch := by
  constructor
  · intro start empty visits segment member
    have before : HasNormalRules start := by
      intro segment member
      rw [empty.segments] at member
      cases member
    obtain ⟨rule, normal⟩ := hasNormalRules_kept.run before visits segment member
    exact ⟨rule, normal.read, normal.written, normal.shallow, normal.known⟩
  · intro written normal json accepted profile declared
    exact Rule.matchesWritten_typed json accepted declared

open Api.Sample in
/-- The rules that the user made are stored in normal form, and they can be evaluated on a customer
of declared types as they were written. -/
theorem regulars_normal :
    (run start [segmentVisit]).segments.rows.map Segment.rules = [rules] ∧
    (∃ rule, Rule.parse rules Rule.rootPath = .ok rule ∧ rule.toValue = rules ∧
      rule.depth ≤ Rule.maxDepth ∧
      ∀ name ∈ rule.names, ∃ field, Registry.standard.resolve (.ofFieldName name) = .ok field) ∧
    IsJson (writtenRules "or") ∧ Rule.normalForm [] (writtenRules "or") = .ok rules ∧
    ({ visits := .int 5 } : Profile).IsDeclared ∧
    ((∃ verdict, Rule.matchesWritten Registry.standard [] (writtenRules "or")
        ({ visits := .int 5 } : Profile).subject = .ok verdict) ∨
      ∃ e, Rule.matchesWritten Registry.standard [] (writtenRules "or")
        ({ visits := .int 5 } : Profile).subject = .error (.rule e) ∧ e.kind = .typeMismatch) := by
  have reached : run start [segmentVisit] = withSegment := segment_made
  have stored : (run start [segmentVisit]).segments.rows.map Segment.rules = [rules] := by
    rw [reached]
    rfl
  have held : Value.lookup [(.text "name", .text "Regulars"), (.text "rules", writtenRules "or")]
      "rules" = some (writtenRules "or") := rfl
  have json := (jsonContent_isDocument jsonContent_segmentBody).1.lookup held
  have normal : Rule.normalForm [] (writtenRules "or") = .ok rules := by rfl
  have declared : ({ visits := .int 5 } : Profile).IsDeclared :=
    ⟨.inl rfl, .inl rfl, .inl rfl, .inl rfl, .inl (.inl ⟨0, rfl⟩), .inl ⟨5, rfl⟩, .inl rfl,
      ⟨[], rfl, by simp⟩, .inl rfl, .inl rfl⟩
  obtain ⟨segment, member, same⟩ : ∃ segment ∈ (run start [segmentVisit]).segments.rows,
      segment.rules = rules := by
    have among : rules ∈ (run start [segmentVisit]).segments.rows.map Segment.rules := by
      simp [stored]
    exact List.mem_map.mp among
  have read := run_rules_normal.1 start start_holdsOnlyUsers [segmentVisit] segment member
  rw [same] at read
  exact ⟨stored, read, json, normal, declared,
    run_rules_normal.2 (writtenRules "or") rules json normal _ declared⟩

end Outreach
