import Outreach.Campaign.Catalogue
import Outreach.Proofs.Schema.Again
import Outreach.Proofs.Api.Write

/-! Campaigns that can be shown. The content and the schedule of a campaign are kept as records and
read again as such, the moments of the schedule from their texts. -/

namespace Outreach

open Schema

/-! ### Content -/

/-- A content all texts of which have only characters. -/
structure CampaignContent.IsSound (content : CampaignContent) : Prop where
  subject : content.subject.All fun given => ∀ text ∈ given, Text.isWhole text = true
  body : Text.isWhole content.body = true ∧ content.body.isEmpty = false
  template : content.template.All fun given => ∀ text ∈ given, Text.isWhole text = true
  attachments : content.attachments.All fun texts => ∀ text ∈ texts, Text.isWhole text = true

namespace CampaignContent

theorem returns_bodyText : Returns bodyText .text fun letters =>
    Text.isWhole letters = true ∧ letters.isEmpty = false where
  found json read := by
    obtain ⟨letters, accepted, filled⟩ := Checked.andThen_eq_accepted_iff.mp read
    have whole := returns_text.found json accepted
    split at filled
    next => cases filled
    next filled_in =>
      cases filled
      exact ⟨whole, by simpa using filled_in⟩
  again := by
    rintro letters ⟨whole, filled⟩
    refine Checked.andThen_eq_accepted_iff.mpr ⟨letters, returns_text.again whole, ?_⟩
    rw [filled]
    rfl

theorem read_isSound {origin : Origin} {value : Value} {content : CampaignContent}
    (json : IsJson value) (accepted : read origin value = .accepted content) : content.IsSound := by
  obtain ⟨entries, rfl, built⟩ := record_of_json json accepted
  simp only [Checked.seq_eq_accepted_iff, Checked.map_eq_accepted_iff] at built
  obtain ⟨_, _, ⟨_, _, ⟨_, _, ⟨_, subject, rfl⟩, body, rfl⟩, template, rfl⟩, attachments, rfl⟩ :=
    built
  exact {
    subject := permitted_found (returns_nullable returns_text (by simp)) json subject
    body := required_found returns_bodyText json body
    template := permitted_found (returns_nullable returns_text (by simp)) json template
    attachments := permitted_found returns_texts json attachments }

theorem permitted_isSound {origin : Origin} {entries : List (Value × Value)} {name : String}
    {entry : Entry (Option CampaignContent)} (json : IsJson (.dict entries))
    (accepted : permitted entries name (nullable (read origin)) = .accepted entry) :
    entry.All fun given => ∀ content ∈ given, content.IsSound := by
  rintro given rfl content ⟨⟩
  obtain ⟨raw, held, found⟩ := permitted_given accepted
  exact read_isSound (json.lookup held) (nullable_some found)

variable {content : CampaignContent}

/-- The fields of a content as they are written. -/
def fields (style : Style) (content : CampaignContent) : List (String × Value) :=
  style.entry "subject" .null (.ofOption .text) content.subject ++
  [("body", .text content.body)] ++
  style.entry "template" .null (.ofOption .text) content.template ++
  style.entry "attachments" (.list []) .ofTexts content.attachments

/-- A content is read again as it is kept. -/
theorem IsSound.again (sound : content.IsSound) (style : Style) :
    ∃ again, read .data (content.toValue style) = .accepted again ∧ again.IsSound := by
  have texts := returns_nullable returns_text (by simp)
  obtain ⟨subject, subjectRead, subjectSound⟩ := permitted_again texts style "subject" .null
    (by simp [fields, List.lookup_append, List.lookup_cons, lookup_entry_other] :
      (content.fields style).lookup "subject" = _) sound.subject ⟨none, rfl, by rintro _ ⟨⟩⟩
  obtain ⟨template, templateRead, templateSound⟩ := permitted_again texts style "template" .null
    (by simp [fields, List.lookup_append, List.lookup_cons, lookup_entry_other] :
      (content.fields style).lookup "template" = _) sound.template ⟨none, rfl, by rintro _ ⟨⟩⟩
  obtain ⟨attachments, attachmentsRead, attachmentsSound⟩ := permitted_again returns_texts style
    "attachments" (.list [])
    (by simp [fields, List.lookup_append, List.lookup_cons, lookup_entry_other] :
      (content.fields style).lookup "attachments" = _) sound.attachments
    ⟨[], rfl, List.forall_mem_nil _⟩
  have body := required_field (content.fields style) "body"
    (by simp [fields, List.lookup_append, lookup_entry_other])
    (returns_bodyText.again sound.body)
  refine ⟨⟨subject, content.body, template, attachments⟩, ?_,
    ⟨subjectSound, sound.body, templateSound, attachmentsSound⟩⟩
  show _ <*> _ = _
  rw [← fields, subjectRead, body, templateRead, attachmentsRead]
  rfl

theorem IsSound.told (sound : content.IsSound) (style : Style) :
    (content.toValue style).IsTellable := by
  have texts {name : String} {entry : Entry (Option String)} (named : Text.isWhole name = true)
      (all : entry.All fun given => ∀ text ∈ given, Text.isWhole text = true) :
      AreTellable (style.entry name .null (.ofOption .text) entry) :=
    .entry named rfl (all.imp fun given each => Value.isTellable_ofOption each)
  refine Value.isTellable_record (.append (.append (.append ?_ ?_) ?_) ?_)
  · exact texts (by decide) sound.subject
  · exact .cons (by decide) sound.body.1 .nil
  · exact texts (by decide) sound.template
  · exact .entry (by decide) rfl (sound.attachments.imp fun _ => Value.isTellable_ofTexts)

end CampaignContent

/-! ### Schedules -/

/-- A schedule whose moments have offsets of whole minutes. -/
structure CampaignSchedule.IsSound (schedule : CampaignSchedule) : Prop where
  startDate : schedule.startDate.All fun given => ∀ m ∈ given, m.HasWholeOffset
  endDate : schedule.endDate.All fun given => ∀ m ∈ given, m.HasWholeOffset
  timezone : schedule.timezone.All fun given => ∀ text ∈ given, Text.isWhole text = true

namespace CampaignSchedule

theorem returns_moments (style : Style) : Returns (nullable moment) (.ofOption style.moment)
    fun given => ∀ m ∈ given, m.HasWholeOffset := by
  refine returns_nullable (returns_moment style) fun m => ?_
  unfold Style.moment
  cases style.json <;> simp

theorem returns_frequency : Returns (nullable Vocabulary.read) (.ofOption Vocabulary.toValue)
    fun given : Option Frequency => ∀ frequency ∈ given, True :=
  returns_nullable returns_word (by simp [Vocabulary.toValue])

theorem isTellable_frequency (frequency : Frequency) :
    (Vocabulary.toValue frequency).IsTellable := by
  cases frequency <;> exact Value.isTellable_text.mpr (by decide)

theorem read_isSound {origin : Origin} {value : Value} {schedule : CampaignSchedule}
    (json : IsJson value) (accepted : read origin value = .accepted schedule) :
    schedule.IsSound := by
  obtain ⟨entries, rfl, built⟩ := record_of_json json accepted
  simp only [Checked.seq_eq_accepted_iff, Checked.map_eq_accepted_iff] at built
  obtain ⟨_, _, ⟨_, _, ⟨_, _, ⟨_, first, rfl⟩, last, rfl⟩, -, rfl⟩, timezone, rfl⟩ := built
  exact {
    startDate := permitted_found (returns_moments {}) json first
    endDate := permitted_found (returns_moments {}) json last
    timezone := permitted_found (returns_nullable returns_text (by simp)) json timezone }

theorem permitted_isSound {origin : Origin} {entries : List (Value × Value)} {name : String}
    {entry : Entry (Option CampaignSchedule)} (json : IsJson (.dict entries))
    (accepted : permitted entries name (nullable (read origin)) = .accepted entry) :
    entry.All fun given => ∀ schedule ∈ given, schedule.IsSound := by
  rintro given rfl schedule ⟨⟩
  obtain ⟨raw, held, found⟩ := permitted_given accepted
  exact read_isSound (json.lookup held) (nullable_some found)

variable {schedule : CampaignSchedule}

/-- The fields of a schedule as they are written. -/
def fields (style : Style) (schedule : CampaignSchedule) : List (String × Value) :=
  style.entry "start_date" .null (.ofOption style.moment) schedule.startDate ++
  style.entry "end_date" .null (.ofOption style.moment) schedule.endDate ++
  style.entry "frequency" .null (.ofOption Vocabulary.toValue) schedule.frequency ++
  style.entry "timezone" .null (.ofOption .text) schedule.timezone

/-- A schedule is read again as it is kept. -/
theorem IsSound.again (sound : schedule.IsSound) (style : Style) :
    ∃ again, read .data (schedule.toValue style) = .accepted again ∧ again.IsSound := by
  obtain ⟨first, firstRead, firstSound⟩ := permitted_again (returns_moments style) style
    "start_date" .null (by simp [fields, List.lookup_append, lookup_entry_other] :
      (schedule.fields style).lookup "start_date" = _) sound.startDate ⟨none, rfl, by rintro _ ⟨⟩⟩
  obtain ⟨last, lastRead, lastSound⟩ := permitted_again (returns_moments style) style
    "end_date" .null (by simp [fields, List.lookup_append, lookup_entry_other] :
      (schedule.fields style).lookup "end_date" = _) sound.endDate ⟨none, rfl, by rintro _ ⟨⟩⟩
  have any : schedule.frequency.All fun given => ∀ frequency ∈ given, True :=
    fun _ _ _ _ => trivial
  obtain ⟨frequency, frequencyRead, -⟩ := permitted_again returns_frequency style
    "frequency" .null (by simp [fields, List.lookup_append, lookup_entry_other] :
      (schedule.fields style).lookup "frequency" = _) any ⟨none, rfl, by rintro _ ⟨⟩⟩
  obtain ⟨timezone, timezoneRead, timezoneSound⟩ := permitted_again
    (returns_nullable returns_text (by simp)) style
    "timezone" .null (by simp [fields, List.lookup_append, lookup_entry_other] :
      (schedule.fields style).lookup "timezone" = _) sound.timezone ⟨none, rfl, by rintro _ ⟨⟩⟩
  refine ⟨⟨first, last, frequency, timezone⟩, ?_, ⟨firstSound, lastSound, timezoneSound⟩⟩
  show _ <*> _ = _
  rw [← fields, firstRead, lastRead, frequencyRead, timezoneRead]
  rfl

/-- A schedule that a campaign may have or not is read again as it is kept. -/
theorem again_ofOption {given : Option CampaignSchedule}
    (sound : ∀ schedule ∈ given, schedule.IsSound) (style : Style) : ∃ again, nullable (read .data) (.ofOption (toValue style) given) =
      .accepted again ∧ ∀ schedule ∈ again, schedule.IsSound := by
  cases given with
  | none => exact ⟨none, rfl, by rintro _ ⟨⟩⟩
  | some schedule =>
    obtain ⟨again, accepted, againSound⟩ := (sound schedule rfl).again style
    have filled : nullable (read .data) (toValue style schedule) =
        (read .data (toValue style schedule)).map some := rfl
    refine ⟨some again, filled.trans ?_, by rintro _ ⟨⟩; exact againSound⟩
    exact Checked.map_eq_accepted_iff.mpr ⟨again, accepted, rfl⟩

theorem IsSound.told (sound : schedule.IsSound) (style : Style) :
    (schedule.toValue style).IsTellable := by
  have moments {name : String} {entry : Entry (Option Moment)}
      (named : Text.isWhole name = true) :
      AreTellable (style.entry name .null (.ofOption style.moment) entry) :=
    .entry named rfl fun given _ => Value.isTellable_ofOption fun m _ => style.isTellable_moment m
  refine Value.isTellable_record (.append (.append (.append ?_ ?_) ?_) ?_)
  · exact moments (by decide)
  · exact moments (by decide)
  · exact .entry (by decide) rfl fun given _ =>
      Value.isTellable_ofOption fun frequency _ => isTellable_frequency frequency
  · exact .entry (by decide) rfl (sound.timezone.imp fun _ each => Value.isTellable_ofOption each)

end CampaignSchedule

/-! ### The view -/

/-- A campaign every column of which is read again. -/
structure Campaign.IsSound (campaign : Campaign) : Prop where
  name : IsBounded 1 255 campaign.name
  description : ∀ text ∈ campaign.description, Text.isWhole text = true
  content : ∃ content, CampaignContent.read .data campaign.content = .accepted content ∧
    content.IsSound
  schedule : ∃ schedule, nullable (CampaignSchedule.read .data) campaign.schedule =
    .accepted schedule ∧ ∀ given ∈ schedule, given.IsSound

theorem Metrics.read_toValue (metrics : Metrics Int) :
    Metrics.read metrics.toValue = .accepted metrics := by
  have counter (name : String) (n : Int) (held : (metrics.counters.map fun counter =>
      (counter.1, Value.int counter.2)).lookup name = some (.int n)) :=
    permitted_field _ name held (rfl : integer (.int n) = .accepted n)
  show _ <*> _ = _
  dsimp only
  rw [counter "sent" metrics.sent rfl, counter "delivered" metrics.delivered rfl,
    counter "opened" metrics.opened rfl, counter "clicked" metrics.clicked rfl,
    counter "bounced" metrics.bounced rfl, counter "complained" metrics.complained rfl,
    counter "unsubscribed" metrics.unsubscribed rfl, counter "failed" metrics.failed rfl]
  rfl

theorem Metrics.isTellable (metrics : Metrics Int) : metrics.toValue.IsTellable := by
  have names : ∀ name ∈ metrics.counters.map (·.1), Text.isWhole name = true := by
    show ∀ name ∈ ["sent", "delivered", "opened", "clicked", "bounced", "complained",
      "unsubscribed", "failed"], Text.isWhole name = true
    decide
  refine Value.isTellable_record fun field member => ?_
  obtain ⟨counter, among, rfl⟩ := List.mem_map.mp member
  exact ⟨names _ (List.mem_map_of_mem among), Value.isTellable_int _⟩

/-- What is shown of a sound campaign is its columns, the content and the schedule as they are read
again. -/
theorem Campaign.IsSound.view?_eq {campaign : Campaign} (sound : campaign.IsSound) :
    ∃ content schedule, content.IsSound ∧ (∀ given ∈ schedule, given.IsSound) ∧
      campaign.view? = some {
        plan := ⟨campaign.name, .given campaign.description, campaign.channel, campaign.segment,
          content, .given schedule⟩
        id := campaign.id
        status := campaign.status
        metrics := campaign.metrics
        createdBy := .given campaign.createdBy
        createdAt := .given (some campaign.createdAt.moment)
        updatedAt := .given (some campaign.updatedAt) } := by
  obtain ⟨content, contentRead, contentSound⟩ := sound.content
  obtain ⟨schedule, scheduleRead, scheduleSound⟩ := sound.schedule
  let columns := campaign.mainColumns ++ [("metrics", campaign.metrics.toValue)]
  have word {α : Type} [Vocabulary α] (a : α) :
      (Vocabulary.read : Reader α) (Vocabulary.toValue a) = .accepted a :=
    returns_word.again trivial
  have numbers (n : Int) : integer (.int n) = .accepted n := rfl
  have moments (m : Moment) : nullable moment (.moment m) = .accepted (some m) := rfl
  have name := required_field columns "name" rfl ((returns_boundedText 1 255).again sound.name)
  have description := permitted_field columns "description" rfl
    ((returns_nullable returns_text (by simp)).again sound.description)
  have channel := required_field columns "type" rfl (word campaign.channel)
  have segment := required_field columns "segment_id" rfl (numbers campaign.segment)
  have contents := required_field columns "content" rfl contentRead
  have schedules := permitted_field columns "schedule" rfl scheduleRead
  have id := required_field columns "id" rfl (numbers campaign.id)
  have status := required_field columns "status" rfl (word campaign.status)
  have metrics := required_field columns "metrics" rfl (Metrics.read_toValue campaign.metrics)
  have owner := permitted_field columns "created_by_user_id" rfl
    ((returns_nullable returns_integer (by simp)).again (fun _ _ => trivial) :
      nullable integer (.ofOption .int campaign.createdBy) = .accepted campaign.createdBy)
  have created := permitted_field columns "created_at" rfl (moments campaign.createdAt.moment)
  have updated := permitted_field columns "updated_at" rfl (moments campaign.updatedAt)
  refine ⟨content, schedule, contentSound, scheduleSound, ?_⟩
  show Checked.toOption (_ <*> _) = _
  unfold CampaignPlan.ofFields
  rw [name, description, channel, segment, contents, schedules, id, status, metrics, owner,
    created, updated]
  rfl

theorem Campaign.IsSound.shown {campaign : Campaign} (sound : campaign.IsSound) :
    ∃ view, campaign.view? = some view ∧ (view.toValue {}).IsTellable := by
  obtain ⟨content, schedule, contentSound, scheduleSound, shown⟩ := sound.view?_eq
  refine ⟨_, shown, Value.isTellable_record ?_⟩
  have time (m : Moment) : (Value.ofOption (Style.moment {}) (some m)).IsTellable :=
    Style.isTellable_moment {} m
  have owned : (Value.ofOption .int campaign.createdBy).IsTellable :=
    Value.isTellable_ofOption fun n _ => Value.isTellable_int n
  have channels : (Vocabulary.toValue campaign.channel).IsTellable := by
    cases campaign.channel <;> exact Value.isTellable_text.mpr (by decide)
  have stages : (Vocabulary.toValue campaign.status).IsTellable := by
    cases campaign.status <;> exact Value.isTellable_text.mpr (by decide)
  have plan : AreTellable (CampaignPlan.fields {} ⟨campaign.name, .given campaign.description,
      campaign.channel, campaign.segment, content, .given schedule⟩) := by
    refine .append (.append (.append ?_ ?_) ?_) ?_
    · exact .cons (by decide) sound.name.1 .nil
    · exact .entry (by decide) rfl (Entry.all_given.mpr
        (Value.isTellable_ofOption sound.description))
    · exact .cons (by decide) channels (.cons (by decide) rfl
        (.cons (by decide) (contentSound.told {}) .nil))
    · exact .entry (by decide) rfl (Entry.all_given.mpr
        (Value.isTellable_ofOption fun given member => (scheduleSound given member).told {}))
  refine .append (.append (.append (.append plan ?_) ?_) ?_) ?_
  · exact .cons (by decide) rfl (.cons (by decide) stages
      (.cons (by decide) (Metrics.isTellable campaign.metrics) .nil))
  · exact .entry (by decide) rfl (Entry.all_given.mpr owned)
  · exact .entry (by decide) rfl (Entry.all_given.mpr (time _))
  · exact .entry (by decide) rfl (Entry.all_given.mpr (time _))

/-- The number of a campaign is no part of what the view needs. -/
theorem Campaign.IsSound.withId {campaign : Campaign} (sound : campaign.IsSound) (n : Int) :
    (Row.withId n campaign).IsSound :=
  ⟨sound.name, sound.description, sound.content, sound.schedule⟩

/-! ### New campaigns -/

theorem CampaignDraft.newRow_isSound {value : Value} {draft : CampaignDraft} (json : IsJson value)
    (read : CampaignDraft.read .request value = .accepted draft) (now : Moment) (user : Int) :
    (Campaigns.newRow now user draft).IsSound := by
  obtain ⟨entries, rfl, built⟩ := record_of_json json read
  simp only [CampaignPlan.ofFields, Checked.seq_eq_accepted_iff, Checked.map_eq_accepted_iff]
    at built
  obtain ⟨_, _, ⟨_, ⟨_, _, ⟨_, _, ⟨_, _, ⟨_, _, ⟨_, _, ⟨_, name, rfl⟩, description, rfl⟩, -, rfl⟩, -,
    rfl⟩, content, rfl⟩, schedule, rfl⟩, rfl⟩, -, rfl⟩ := built
  have texts := permitted_found (returns_nullable returns_text (by simp)) json description
  obtain ⟨raw, held, accepted⟩ := required_accepted content
  exact {
    name := required_found (returns_boundedText 1 255) json name
    description := texts.getD (by rintro _ ⟨⟩)
    content := (CampaignContent.read_isSound (json.lookup held) accepted).again {}
    schedule := by
      refine CampaignSchedule.again_ofOption ?_ {}
      exact (CampaignSchedule.permitted_isSound json schedule).getD (by rintro _ ⟨⟩) }

/-! ### Changed campaigns -/

/-- A change that takes away nothing that the view needs, and aims at a number that a column can
hold. -/
structure CampaignChange.IsSound (change : CampaignChange) : Prop where
  name : change.name ≠ .given none
  channel : change.channel ≠ .given none
  status : change.status ≠ .given none
  segment : change.segment ≠ .given none ∧
    change.segment.All fun given => ∀ n ∈ given, fitsColumn n = true
  content : change.content ≠ .given none

/-- What the change does not mention stays as it was. -/
structure CampaignChange.Keeps (change : CampaignChange) (row changed : Campaign) : Prop where
  id : changed.id = row.id
  name : change.name = .absent → changed.name = row.name
  description : change.description = .absent → changed.description = row.description
  channel : change.channel = .absent → changed.channel = row.channel
  status : change.status = .absent → changed.status = row.status
  segment : change.segment = .absent → changed.segment = row.segment
  content : change.content = .absent → changed.content = row.content
  schedule : change.schedule = .absent → changed.schedule = row.schedule
  metrics : changed.metrics = row.metrics
  createdBy : changed.createdBy = row.createdBy
  createdAt : changed.createdAt = row.createdAt

theorem CampaignChange.Keeps.refl (change : CampaignChange) (row : Campaign) :
    change.Keeps row row := by
  constructor <;> simp

/-- What a change brings in can be kept. -/
structure CampaignChange.BringsSound (change : CampaignChange) : Prop where
  name : change.name.All fun given => ∀ text ∈ given, IsBounded 1 255 text
  description : change.description.All fun given => ∀ text ∈ given, Text.isWhole text = true
  content : change.content.All fun given => ∀ content ∈ given, content.IsSound
  schedule : change.schedule.All fun given => ∀ schedule ∈ given, schedule.IsSound

section
variable {db : Database} {now : Moment} {value : Value} {change : CampaignChange} {row : Campaign}

theorem CampaignChange.bringsSound (json : IsJson value)
    (read : CampaignChange.read .request value = .accepted change) : change.BringsSound := by
  obtain ⟨entries, rfl, built⟩ := record_of_json json read
  simp only [Checked.seq_eq_accepted_iff, Checked.map_eq_accepted_iff] at built
  obtain ⟨_, _, ⟨_, _, ⟨_, _, ⟨_, _, ⟨_, _, ⟨_, _, ⟨_, name, rfl⟩, description, rfl⟩, -, rfl⟩, -,
    rfl⟩, -, rfl⟩, content, rfl⟩, schedule, rfl⟩ := built
  exact {
    name := permitted_found (returns_nullable (returns_boundedText 1 255) (by simp)) json name
    description := permitted_found (returns_nullable returns_text (by simp)) json description
    content := CampaignContent.permitted_isSound json content
    schedule := CampaignSchedule.permitted_isSound json schedule }

theorem CampaignChange.Makes.isSound {changed : Campaign} (makes : change.Makes row changed)
    (brings : change.BringsSound) (sound : change.IsSound) (before : row.IsSound) :
    changed.IsSound where
  name := brings.name.orKept? before.name makes.name
  description := by
    rw [makes.description]
    exact brings.description.getD before.description
  content := by
    rw [makes.content]
    match said : change.content with
    | .absent => exact before.content
    | .given none => exact absurd said sound.content
    | .given (some content) =>
      exact (brings.content _ said content rfl).again Campaigns.recordStyle
  schedule := by
    rw [makes.schedule]
    match said : change.schedule with
    | .absent => exact before.schedule
    | .given given =>
      exact CampaignSchedule.again_ofOption (brings.schedule given said) Campaigns.recordStyle

theorem CampaignChange.Makes.keeps {changed : Campaign} (makes : change.Makes row changed) :
    change.Keeps row changed where
  id := makes.id
  name := Entry.kept_of_absent makes.name
  description unsaid := by
    rw [makes.description, unsaid]
    rfl
  channel := Entry.kept_of_absent makes.channel
  status := Entry.kept_of_absent makes.status
  segment := Entry.kept_of_absent makes.segment
  content unsaid := by
    rw [makes.content, unsaid]
    rfl
  schedule unsaid := by
    rw [makes.schedule, unsaid]
    rfl
  metrics := makes.metrics
  createdBy := makes.createdBy
  createdAt := makes.createdAt

/-- Looks for the segment that a change aims at. -/
def Campaigns.ensureAim (db : Database) (change : CampaignChange) : Except Halt Unit :=
  match change.segment with
  | .given (some segment) => do let _ ← db.segments.get .segment segment
  | _ => pure ()

theorem Campaigns.update_eq {id : Int} (got : db.campaigns.get .campaign id = .ok row) :
    update db now id change = (do
      ensureUnsent row
      ensureAim db change
      let changed ← orFail (changed? now change row)
      return ⟨{ db with campaigns := db.campaigns.replace changed }, changed.view?⟩) := by
  unfold update ensureAim
  rw [got]
  cases change.segment with
  | absent => rfl
  | given given =>
    cases given with
    | none => rfl
    | some target =>
      dsimp only
      cases db.segments.get .segment target with
      | ok segment => rfl
      | error halt => rfl

/-- Neither being sent nor counting a receipt takes away anything that the view needs. -/
theorem Campaign.IsSound.completed (before : row.IsSound) (now : Moment) (metrics : Metrics Int) :
    (Campaigns.completed now metrics row).IsSound :=
  ⟨before.name, before.description, before.content, before.schedule⟩

theorem Campaign.IsSound.recounted (before : row.IsSound) (now : Moment) (metrics : Metrics Int) :
    (Tracking.recounted now metrics row).IsSound :=
  ⟨before.name, before.description, before.content, before.schedule⟩

end

end Outreach
