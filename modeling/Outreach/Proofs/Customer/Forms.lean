import Outreach.Customer.Profile
import Outreach.Proofs.Rule.Dependence
import Outreach.Proofs.Rule.Renamed
import Outreach.Store.Column

/-! The forms in which rules meet a customer: the row itself, the snapshot taken of it, and mappings
of its attributes under their names in written rules or under their own. Every field reads the same
from all of them, so every rule has one outcome. -/

namespace Outreach

namespace Columns

/-- A row as something to evaluate rules on. Attributes that were left out are null. -/
def row (given : Columns) : Subject := .attributes (Profile.storedAttributes given)

/-- The attributes of a row under the names of their fields in written rules. -/
def byName (given : Columns) : Subject :=
  .mapping (Registry.customerFields.map fun field => (.text field.name, given.get field.property))

/-- The attributes of a row under their own names. -/
def byProperty (given : Columns) : Subject :=
  .mapping (Registry.customerFields.map fun field =>
    (.text field.property, given.get field.property))

variable {given : Columns} {field : Field}

theorem raw?_row (member : field ∈ Registry.customerFields) :
    field.raw? given.row = some (given.get field.property) := by
  revert field
  simp only [Registry.customerFields, List.forall_mem_cons]
  exact ⟨rfl, rfl, rfl, rfl, rfl, rfl, rfl, rfl, rfl, rfl, List.forall_mem_nil _⟩

theorem raw?_byName (member : field ∈ Registry.customerFields) :
    field.raw? given.byName = some (given.get field.property) := by
  revert field
  simp only [Registry.customerFields, List.forall_mem_cons]
  exact ⟨rfl, rfl, rfl, rfl, rfl, rfl, rfl, rfl, rfl, rfl, List.forall_mem_nil _⟩

theorem raw?_byProperty (member : field ∈ Registry.customerFields) :
    field.raw? given.byProperty = some (given.get field.property) := by
  revert field
  simp only [Registry.customerFields, List.forall_mem_cons]
  exact ⟨rfl, rfl, rfl, rfl, rfl, rfl, rfl, rfl, rfl, rfl, List.forall_mem_nil _⟩

theorem read_congr {first second : Subject} (same : field.raw? first = field.raw? second) :
    field.read first = field.read second := by
  rw [Field.read, Field.read, same]

/-- A row whose numbers are there and whose tags are a list: what a snapshot of it would change is
the kind of the tags alone. -/
structure IsFilled (given : Columns) : Prop where
  spend : given.get "total_spend" ≠ .null
  visits : given.get "visits" ≠ .null
  tags : ∃ items, given.get "tags" = .list items

theorem orZero_of_ne_null {value : Value} (filled : value ≠ .null) :
    Profile.orZero value = value := by
  cases value with
  | null => exact absurd rfl filled
  | _ => rfl

theorem tagTuple?_list (items : List Value) :
    Profile.tagTuple? (.list items) = some (.tuple items) := by
  cases items <;> rfl

/-- A snapshot of a filled row reads as the row does. The tags come as a tuple, which is what their
field makes of the list. -/
theorem IsFilled.snapshot (filled : given.IsFilled) :
    ∃ profile, Profile.ofStored? given = some profile ∧
      ∀ field ∈ Registry.customerFields, field.read profile.subject = field.read given.row := by
  obtain ⟨items, listed⟩ := filled.tags
  have taken : Profile.ofStored? given = (Profile.tagTuple? (given.get "tags")).map fun tags =>
      { id := given.get "id"
        name := given.get "name"
        email := given.get "email"
        phone := given.get "phone"
        totalSpend := Profile.orZero (given.get "total_spend")
        visits := Profile.orZero (given.get "visits")
        lastVisit := given.get "last_visit"
        tags
        createdAt := given.get "created_at"
        updatedAt := given.get "updated_at" } := rfl
  rw [listed, tagTuple?_list, orZero_of_ne_null filled.spend,
    orZero_of_ne_null filled.visits] at taken
  refine ⟨_, taken, ?_⟩
  have tags : Field.read ⟨"tags", "tags", .list, "Free-form customer tags"⟩ given.row =
      .ok (.tuple items) := by
    have raw : Field.raw? ⟨"tags", "tags", .list, "Free-form customer tags"⟩ given.row =
        some (given.get "tags") := rfl
    rw [Field.read, raw, listed]
    rfl
  simp only [Registry.customerFields, List.forall_mem_cons]
  exact ⟨rfl, rfl, rfl, rfl, rfl, rfl, rfl, tags.symm, rfl, rfl, List.forall_mem_nil _⟩

end Columns

namespace Rule

/-- Two subjects from which all fields of customers read the same have one outcome. -/
theorem matchesWritten_congr {first second : Subject}
    (alike : ∀ field ∈ Registry.customerFields, field.read first = field.read second)
    (store : ValueStore) (written : Value) :
    matchesWritten Registry.standard store written first =
      matchesWritten Registry.standard store written second := by
  unfold matchesWritten
  split
  next rule read =>
    refine evaluate_congr fun name operator value _ => evaluateLeaf_congr ?_ operator value
    intro field resolved
    exact alike field (standard_field (resolve_eq_ok_iff.mp resolved))
  next => rfl

/-- A rule has one outcome on a filled row, on its snapshot, and on the mappings of its attributes
under either kind of names. And a rule, whether it was read or is written, has one verdict or errors
of one class on any customer by whichever of their two names its leaves call their fields. -/
theorem matchesWritten_forms :
    (∀ given : Columns, given.IsFilled → ∃ profile, Profile.ofStored? given = some profile ∧
      ∀ store written, ∀ form ∈ [profile.subject, given.byName, given.byProperty],
        matchesWritten Registry.standard store written form =
          matchesWritten Registry.standard store written given.row) ∧
    (∀ rule other, Renamed rule other → ∀ store subject,
      SameClass (matchesWritten Registry.standard store (.rule rule) subject)
        (matchesWritten Registry.standard store (.rule other) subject)) ∧
    ∀ written other, Respelled written other → ∀ subject,
      SameClass (matchesWritten Registry.standard [] written subject)
        (matchesWritten Registry.standard [] other subject) := by
  refine ⟨fun given filled => ?_, fun rule other renamed => renamed.matchesWritten,
    fun written other respelled => respelled.matchesWritten⟩
  obtain ⟨profile, taken, alike⟩ := filled.snapshot
  refine ⟨profile, taken, fun store written => ?_⟩
  simp only [List.forall_mem_cons]
  refine ⟨matchesWritten_congr alike store written, matchesWritten_congr ?_ store written,
    matchesWritten_congr ?_ store written, nofun⟩
  · exact fun field member => Columns.read_congr
      ((Columns.raw?_byName member).trans (Columns.raw?_row member).symm)
  · exact fun field member => Columns.read_congr
      ((Columns.raw?_byProperty member).trans (Columns.raw?_row member).symm)

/-- Ada, who spent twelve and was never seen on a date. -/
def ada : Columns := [
  ("name", .text "Ada"), ("total_spend", .int 12), ("visits", .int 5),
  ("tags", .list [.text "vip"])]

/-- Customers who spent something and have a tag, the spending under a name. -/
def spending (name : String) : Rule := .composite .all [
  .leaf (.word name) .greater (.int 0), .leaf (.word "tags") .contains (.text "vip")]

/-- Customers whose last visit comes after nothing, the last visit under a name. -/
def afterNothing (name : String) : Value := .record [
  ("field", .text name), ("operator", .text ">"), ("value", .null)]

/-- Ada spent something in all forms and under both names. That a missing date cannot be compared is
said with the name that the rule uses, by one class of error. -/
theorem ada_forms :
    ada.IsFilled ∧ Renamed (spending "totalSpend") (spending "total_spend") ∧
    Respelled (afterNothing "lastVisit") (afterNothing "last_visit") ∧
    (∃ profile, Profile.ofStored? ada = some profile ∧
      ∀ form ∈ [profile.subject, ada.byName, ada.byProperty],
        matchesWritten Registry.standard [] (.rule (spending "totalSpend")) form = .ok true ∧
        SameClass (matchesWritten Registry.standard [] (.rule (spending "totalSpend")) form)
          (matchesWritten Registry.standard [] (.rule (spending "total_spend")) form)) ∧
    SameClass (matchesWritten Registry.standard [] (afterNothing "lastVisit") ada.row)
      (matchesWritten Registry.standard [] (afterNothing "last_visit") ada.row) := by
  have filled : ada.IsFilled := ⟨nofun, nofun, _, rfl⟩
  have spent : IsAlias "totalSpend" "total_spend" := by
    unfold IsAlias
    decide
  have seen : IsAlias "lastVisit" "last_visit" := by
    unfold IsAlias
    decide
  have renamed : Renamed (spending "totalSpend") (spending "total_spend") :=
    .composite .all [(_, _), (_, _)] (by simp [Renamed.other spent, Renamed.same])
  have respelled : Respelled (afterNothing "lastVisit") (afterNothing "last_visit") :=
    .leaf rfl rfl seen
  obtain ⟨forms, names, spellings⟩ := matchesWritten_forms
  obtain ⟨profile, taken, one⟩ := forms ada filled
  refine ⟨filled, renamed, respelled, ⟨profile, taken, fun form among => ⟨?_, ?_⟩⟩,
    spellings _ _ respelled ada.row⟩
  · exact (one [] _ form among).trans (by cbv)
  · exact names _ _ renamed [] form

/-- The wording keeps the name that the rule uses. -/
example :
    matchesWritten Registry.standard [] (afterNothing "last_visit") ada.row =
      .error (.rule ⟨.unordered .greater "NoneType" "last_visit" "NoneType", none⟩) := rfl

end Rule

end Outreach
