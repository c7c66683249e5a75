import Outreach.Proofs.Customer.Spend
import Outreach.Proofs.Problem.Told

/-! Segments that can be shown, and what becomes of a change to one. Rules in normal form are a
mapping that the view reads as it stands. Where the rules of a change are counted, nothing but an
error of the rules themselves keeps the change from being made. -/

namespace Outreach

open Schema

/-- A segment every column of which is read again, and can be told. -/
structure Segment.IsSound (segment : Segment) : Prop where
  name : Text.isWhole segment.name = true
  description : ∀ text ∈ segment.description, Text.isWhole text = true
  rules : ∃ rule : Rule, segment.rules = rule.toValue
  told : segment.rules.IsTellable

/-! ### The view -/

theorem mapping_rule (rule : Rule) :
    ∃ entries, mapping rule.toValue = .accepted entries ∧ .dict entries = rule.toValue := by
  cases rule with
  | leaf field operator value =>
    have whole : ∀ name ∈ ["field", "operator", "value"], Text.isWhole name = true := by decide
    have apart : ["field", "operator", "value"].Nodup := by decide
    rw [Rule.toValue]
    exact ⟨_, mapping_record rfl whole apart, rfl⟩
  | composite condition rules =>
    have whole : ∀ name ∈ ["condition", "rules"], Text.isWhole name = true := by decide
    have apart : ["condition", "rules"].Nodup := by decide
    rw [Rule.toValue]
    exact ⟨_, mapping_record rfl whole apart, rfl⟩

/-- What is shown of a sound segment is its columns. -/
theorem Segment.IsSound.view?_eq {segment : Segment} (sound : segment.IsSound) :
    ∃ entries, .dict entries = segment.rules ∧ segment.view? = some {
      id := segment.id
      name := segment.name
      description := .given segment.description
      rules := entries
      estimatedAudience := .given segment.estimatedAudience
      lastUpdated := .given (some segment.lastUpdated)
      createdBy := .given segment.createdBy
      createdAt := .given (some segment.createdAt.moment) } := by
  obtain ⟨rule, written⟩ := sound.rules
  obtain ⟨entries, mapped, same⟩ := mapping_rule rule
  have ruled : mapping segment.rules = .accepted entries := by rw [written, mapped]
  have moments (m : Moment) : nullable moment (.moment m) = .accepted (some m) := rfl
  have numbers (n : Int) : integer (.int n) = .accepted n := rfl
  have id := required_field segment.columns "id" rfl (numbers segment.id)
  have name := required_field segment.columns "name" rfl (returns_text.again sound.name)
  have description := permitted_field segment.columns "description" rfl
    ((returns_nullable returns_text (by simp)).again sound.description)
  have rules := required_field segment.columns "rules" rfl ruled
  have audience := permitted_field segment.columns "estimated_audience" rfl
    (numbers segment.estimatedAudience)
  have counted := permitted_field segment.columns "last_updated" rfl (moments segment.lastUpdated)
  have owner := permitted_field segment.columns "created_by_user_id" rfl
    ((returns_nullable returns_integer (by simp)).again (fun _ _ => trivial) :
      nullable integer (.ofOption .int segment.createdBy) = .accepted segment.createdBy)
  have created := permitted_field segment.columns "created_at" rfl
    (moments segment.createdAt.moment)
  refine ⟨entries, same.trans written.symm, ?_⟩
  show Checked.toOption (_ <*> _) = _
  rw [id, name, description, rules, audience, counted, owner, created]
  rfl

theorem Segment.IsSound.shown {segment : Segment} (sound : segment.IsSound) :
    ∃ view, segment.view? = some view ∧ (view.toValue {}).IsTellable := by
  obtain ⟨entries, same, shown⟩ := sound.view?_eq
  have told : (Value.dict entries).IsTellable := by
    rw [same]
    exact sound.told
  refine ⟨_, shown, Value.isTellable_record ?_⟩
  have time (m : Moment) : (Value.ofOption (Style.moment {}) (some m)).IsTellable :=
    Style.isTellable_moment {} m
  have owned : (Value.ofOption .int segment.createdBy).IsTellable :=
    Value.isTellable_ofOption fun n _ => Value.isTellable_int n
  have texts : AreTellable (Style.entry {} "description" .null (.ofOption .text)
      (.given segment.description)) :=
    .entry (by decide) rfl (Entry.all_given.mpr (Value.isTellable_ofOption sound.description))
  refine .append (.append (.append (.append (.append (.append ?_ texts) ?_) ?_) ?_) ?_) ?_
  · exact .cons (by decide) rfl (.cons (by decide) sound.name .nil)
  · exact .cons (by decide) told.toJson .nil
  · exact .entry (by decide) rfl (Entry.all_given.mpr rfl)
  · exact .entry (by decide) rfl (Entry.all_given.mpr (time _))
  · exact .entry (by decide) rfl (Entry.all_given.mpr owned)
  · exact .entry (by decide) rfl (Entry.all_given.mpr (time _))

/-! ### New segments -/

theorem SegmentDraft.newRow_isSound {value : Value} {draft : SegmentDraft} (json : IsJson value)
    (read : SegmentDraft.read [] .request value = .accepted draft) (told : draft.rules.IsTellable)
    (now : Moment) (user : Int) (audience : Nat) :
    (Segments.newRow now user draft audience).IsSound := by
  obtain ⟨raw, placed, normal⟩ := draft_rules json read
  obtain ⟨rule, stored⟩ := stored_of_normalForm (json.part placed) normal
  obtain ⟨entries, rfl, built⟩ := record_of_json json read
  obtain ⟨f, rules, titled, -, rfl⟩ := Checked.seq_eq_accepted_iff.mp built
  obtain ⟨g, description, named, described, rfl⟩ := Checked.seq_eq_accepted_iff.mp titled
  obtain ⟨name, given, rfl⟩ := Checked.map_eq_accepted_iff.mp named
  have texts := permitted_found (returns_nullable returns_text (by simp)) json described
  exact {
    name := (required_found (returns_boundedText 1 100) json given).1
    description := texts.getD (by rintro _ ⟨⟩)
    rules := ⟨rule, stored.written.symm⟩
    told }

/-! ### Counting -/

theorem Customer.IsTyped.declared {customer : Customer} (typed : customer.IsTyped) :
    ∃ profile, customer.profile? = some profile ∧ profile.IsDeclared := by
  have tags : ∃ items, Profile.tagTuple? customer.tags = some (.tuple items) ∧
      ∀ item ∈ items, item.IsText := by
    rcases typed.tags with ⟨texts, same⟩ | same
    · refine ⟨texts.map .text, ?_, ?_⟩
      · rw [same]
        cases texts with
        | nil => rfl
        | cons first rest => rfl
      · rintro _ member
        obtain ⟨letters, -, rfl⟩ := List.mem_map.mp member
        exact .inl ⟨letters, rfl⟩
    · exact ⟨[], by rw [same]; rfl, List.forall_mem_nil _⟩
  obtain ⟨items, made, each⟩ := tags
  have found : customer.profile? = (Profile.tagTuple? customer.tags).map _ := rfl
  rw [made] at found
  have phone : (Value.ofOption .text customer.phone) = .null ∨
      (Value.ofOption .text customer.phone).IsText := by
    cases customer.phone with
    | none => exact .inl rfl
    | some phone => exact .inr (.inl ⟨phone, rfl⟩)
  have lastVisit : (Value.ofOption .moment customer.lastVisit) = .null ∨
      (Value.ofOption .moment customer.lastVisit).IsMoment := by
    cases customer.lastVisit with
    | none => exact .inl rfl
    | some m => exact .inr ⟨m, rfl⟩
  exact ⟨_, found, .inr (.inl ⟨_, rfl⟩), .inr (.inl ⟨_, rfl⟩), .inr (.inl ⟨_, rfl⟩), phone,
    .inr ⟨_, rfl⟩, .inl ⟨_, rfl⟩, lastVisit, ⟨items, rfl, each⟩, .inr ⟨_, rfl⟩, .inr ⟨_, rfl⟩⟩

namespace Segments

variable {settings : Settings} {db : Database} {rules : Value}

end Segments

/-! ### Changed segments -/

/-- A change that leaves the segment a name, and rules that can be told. -/
structure SegmentChange.IsSound (change : SegmentChange) : Prop where
  name : change.name ≠ .given none
  rules : change.rules.All fun given => ∀ rules ∈ given, rules.IsTellable

/-- What the change does not mention stays as it was; the audience stays with the rules. -/
structure SegmentChange.Keeps (change : SegmentChange) (row changed : Segment) : Prop where
  id : changed.id = row.id
  name : change.name = .absent → changed.name = row.name
  description : change.description = .absent → changed.description = row.description
  rules : change.rules = .absent → row.SharesCount changed
  createdBy : changed.createdBy = row.createdBy
  createdAt : changed.createdAt = row.createdAt

theorem SegmentChange.Keeps.refl (change : SegmentChange) (row : Segment) :
    change.Keeps row row :=
  ⟨rfl, fun _ => rfl, fun _ => rfl, fun _ => .refl row, rfl, rfl⟩

section
variable {settings : Settings} {db : Database} {now : Moment} {value : Value}
  {change : SegmentChange} {row : Segment}

theorem SegmentChange.texts (json : IsJson value)
    (read : SegmentChange.read [] .request value = .accepted change) :
    (change.name.All fun given => ∀ text ∈ given, Text.isWhole text = true) ∧
      change.description.All fun given => ∀ text ∈ given, Text.isWhole text = true := by
  obtain ⟨entries, rfl, built⟩ := record_of_json json read
  obtain ⟨f, rules, titled, -, rfl⟩ := Checked.seq_eq_accepted_iff.mp built
  obtain ⟨g, description, named, described, rfl⟩ := Checked.seq_eq_accepted_iff.mp titled
  obtain ⟨name, given, rfl⟩ := Checked.map_eq_accepted_iff.mp named
  have names := permitted_found (returns_nullable (returns_boundedText 1 100) (by simp)) json given
  have texts := permitted_found (returns_nullable returns_text (by simp)) json described
  exact ⟨names.imp fun given each text member => (each text member).1, texts⟩

/-- Another name and another description leave a sound segment sound. -/
theorem Segment.IsSound.retitled (before : row.IsSound) (json : IsJson value)
    (read : SegmentChange.read [] .request value = .accepted change) {name : String}
    (chosen : change.name.orKept? row.name = some name) :
    (Segments.retitled name change row).IsSound := by
  obtain ⟨names, texts⟩ := SegmentChange.texts json read
  exact ⟨names.orKept? before.name chosen, texts.getD before.description, before.rules,
    before.told⟩

/-- The number of a segment is no part of what the view needs. -/
theorem Segment.IsSound.withId (sound : row.IsSound) (n : Int) : (Row.withId n row).IsSound :=
  ⟨sound.name, sound.description, sound.rules, sound.told⟩

/-- A sound segment is sound under other rules that can be told, counted anew. -/
theorem Segment.IsSound.counted {rules : Value} {audience : Nat} (before : row.IsSound)
    (stored : IsStored rules) (told : rules.IsTellable) :
    Segment.IsSound { Segments.recounted now audience row with rules } := by
  obtain ⟨rule, normal⟩ := stored
  exact ⟨before.name, before.description, ⟨rule, normal.written.symm⟩, told⟩

/-- The segment under the rules of a change, if the change brings some. -/
def Segments.ruledBy (settings : Settings) (db : Database) (now : Moment) (change : SegmentChange)
    (row : Segment) : Except Halt Segment :=
  match change.rules with
  | .given (some rules) => withRules settings db now rules row
  | _ => .ok row

theorem Segments.update_eq {id : Int} (got : db.segments.get .segment id = .ok row) :
    update settings db now id change = (do
      let ruled ← ruledBy settings db now change row
      let name ← orFail (change.name.orKept? ruled.name)
      let changed := retitled name change ruled
      return ⟨{ db with segments := db.segments.replace changed }, changed.view?⟩) := by
  unfold update ruledBy
  rw [got]
  cases change.rules with
  | absent => rfl
  | given given => cases given <;> rfl

/-- A count leaves a sound segment sound. -/
theorem Segment.IsSound.recounted {audience : Nat} (before : row.IsSound) :
    (Segments.recounted now audience row).IsSound :=
  ⟨before.name, before.description, before.rules, before.told⟩

end

end Outreach
