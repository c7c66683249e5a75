import Outreach.Proofs.Customer.Spend
import Outreach.Proofs.Schema.Again

/-! Customers that can be shown. Each column of a sound customer is read again by the view, and what
the view tells can be sent. New customers are sound, and so are changed ones, if the address is
readable and the change takes away nothing that the view needs. -/

namespace Outreach

open Schema

/-- An e-mail address that is read again as it is kept. -/
def Email.IsReadable (address : String) : Prop :=
  ∃ shown, Schema.email (.text address) = .accepted shown ∧ Text.isWhole shown = true

theorem Email.IsReadable.whole {address : String} (readable : IsReadable address) :
    Text.isWhole address = true := by
  obtain ⟨shown, read, -⟩ := readable
  obtain ⟨letters, accepted, -⟩ := Checked.andThen_eq_accepted_iff.mp read
  by_contra broken
  have refused : Schema.text (.text address) = .refuse .brokenText := if_neg broken
  cases refused.symm.trans accepted

/-- A customer every column of which is read again. -/
structure Customer.IsSound (customer : Customer) : Prop where
  name : IsBounded 1 255 customer.name
  email : Email.IsReadable customer.email
  phone : ∀ phone ∈ customer.phone, IsBounded 0 50 phone
  spend : customer.totalSpend.isNonnegative = true
  visits : 0 ≤ customer.visits
  fits : fitsColumn customer.visits = true
  tags : ∃ texts, customer.tags = .ofTexts texts ∧ ∀ tag ∈ texts, Text.isWhole tag = true
  kept : customer.totalSpend.stored = customer.totalSpend
  clock : customer.lastVisit.map Moment.wallClock = customer.lastVisit

/-! ### The view -/

namespace Customer

variable {customer : Customer}

/-- The view of a customer that is shown reads the columns as a draft does. -/
theorem isRead_of_view {view : CustomerView} (shown : customer.view? = some view) :
    ∃ details : CustomerDraft,
      details.IsRead (customer.columns.map fun field => (.text field.1, field.2)) := by
  obtain ⟨entries, fields, built⟩ := record_accepted (Checked.toOption_eq_some_iff.mp shown)
  cases fields
  simp only [Checked.seq_eq_accepted_iff, Checked.map_eq_accepted_iff] at built
  obtain ⟨_, _, ⟨_, _, ⟨_, _, ⟨details, read, rfl⟩, -⟩, -⟩, -⟩ := built
  exact ⟨details, CustomerDraft.isRead read⟩

/-- What is shown of a sound customer is its columns, the address as it is read again. -/
theorem IsSound.view?_eq (sound : customer.IsSound) :
    ∃ address texts, Text.isWhole address = true ∧ (∀ tag ∈ texts, Text.isWhole tag = true) ∧
      customer.view? = some {
        details := ⟨customer.name, address, .given customer.phone, .given customer.totalSpend,
          .given customer.visits, .given customer.lastVisit, .given texts⟩
        id := customer.id
        createdAt := .given (some customer.createdAt.moment)
        updatedAt := .given (some customer.updatedAt) } := by
  obtain ⟨address, readable, whole⟩ := sound.email
  obtain ⟨texts, tagged, letters⟩ := sound.tags
  have moments (given : Option Moment) :
      nullable moment (.ofOption .moment given) = .accepted given := by
    cases given <;> rfl
  have name := required_field customer.columns "name" rfl
    ((returns_boundedText 1 255).again sound.name)
  have email := required_field customer.columns "email" rfl readable
  have phone := permitted_field customer.columns "phone" rfl
    ((returns_nullable (returns_boundedText 0 50) (by simp)).again sound.phone)
  have spend := permitted_field customer.columns "total_spend" rfl
    (returns_amount.again sound.spend)
  have visits := permitted_field customer.columns "visits" rfl
    ((returns_integerFrom 0).again sound.visits)
  have lastVisit := permitted_field customer.columns "last_visit" rfl
    (moments customer.lastVisit)
  have tags := permitted_field customer.columns "tags"
    (by rw [← tagged]; rfl) (returns_texts.again letters)
  have id := required_field customer.columns "id" rfl
    (returns_integer.again trivial : integer (.int customer.id) = _)
  have created := permitted_field customer.columns "created_at" rfl
    (moments (some customer.createdAt.moment))
  have updated := permitted_field customer.columns "updated_at" rfl
    (moments (some customer.updatedAt))
  refine ⟨address, texts, whole, letters, ?_⟩
  show Checked.toOption (_ <*> _) = _
  unfold CustomerDraft.ofFields
  rw [name, email, phone, spend, visits, lastVisit, tags, id, created, updated]
  rfl

theorem IsSound.shown (sound : customer.IsSound) :
    ∃ view, customer.view? = some view ∧ (view.toValue {}).IsTellable := by
  obtain ⟨address, texts, whole, letters, shown⟩ := sound.view?_eq
  refine ⟨_, shown, Value.isTellable_record ?_⟩
  have moment (given : Option Moment) :
      (Value.ofOption (Style.moment {}) given).IsTellable :=
    Value.isTellable_ofOption fun m _ => Style.isTellable_moment {} m
  have phone : AreTellable (Style.entry {} "phone" .null (.ofOption .text)
      (.given customer.phone)) :=
    .entry (by decide) rfl (Entry.all_given.mpr
      (Value.isTellable_ofOption fun phone given => (sound.phone phone given).1))
  have details : AreTellable (CustomerDraft.fields {}
      ⟨customer.name, address, .given customer.phone, .given customer.totalSpend,
        .given customer.visits, .given customer.lastVisit, .given texts⟩) := by
    refine .append (.append (.append (.append (.append ?_ phone) ?_) ?_) ?_) ?_
    · exact .cons (by decide) sound.name.1 (.cons (by decide) whole .nil)
    · exact .entry (by decide) rfl (Entry.all_given.mpr (Value.isTellable_float _))
    · exact .entry (by decide) rfl (Entry.all_given.mpr rfl)
    · exact .entry (by decide) rfl (Entry.all_given.mpr (moment _))
    · exact .entry (by decide) rfl (Entry.all_given.mpr (Value.isTellable_ofTexts letters))
  refine .append (.append (.append details (.cons (by decide) rfl .nil)) ?_) ?_
  · exact .entry (by decide) rfl (Entry.all_given.mpr (moment _))
  · exact .entry (by decide) rfl (Entry.all_given.mpr (moment _))

/-- The number of a customer is no part of what the view needs. -/
theorem IsSound.withId (sound : customer.IsSound) (n : Int) : (Row.withId n customer).IsSound :=
  ⟨sound.name, sound.email, sound.phone, sound.spend, sound.visits, sound.fits, sound.tags,
    sound.kept, sound.clock⟩

end Customer

/-! ### New and changed customers -/

theorem Binary64.stored_stored (x : Binary64) : x.stored.stored = x.stored := by
  cases x with
  | finite negative significand exponent canonical =>
    by_cases none : significand = 0
    · simp [stored, none, zero]
    · simp [stored, none]
  | infinite | nan => rfl

theorem CustomerDraft.newRow_isSound {origin : Origin} {value : Value} {draft : CustomerDraft}
    (json : IsJson value) (read : CustomerDraft.read origin value = .accepted draft)
    (readable : Email.IsReadable draft.email) {now : Moment}
    (fits : fitsColumn (Directory.newRow now draft).visits) :
    (Directory.newRow now draft).IsSound := by
  obtain ⟨given, rfl, built⟩ := record_of_json json read
  have isRead := CustomerDraft.isRead built
  have phone := permitted_found (returns_nullable (returns_boundedText 0 50) (by simp)) json
    isRead.phone
  have spend := permitted_found returns_amount json isRead.totalSpend
  have visits := permitted_found (returns_integerFrom 0) json isRead.visits
  have tags := permitted_found returns_texts json isRead.tags
  exact {
    name := required_found (returns_boundedText 1 255) json isRead.name
    email := readable
    phone := phone.getD (by rintro _ ⟨⟩)
    spend := by
      show (draft.totalSpend.getD (.zero false)).stored.isNonnegative = true
      rw [Binary64.isNonnegative_stored]
      exact spend.getD (Binary64.isNonnegative_zero false)
    visits := visits.getD (Int.le_refl 0)
    fits
    tags := ⟨_, rfl, tags.getD (List.forall_mem_nil _)⟩
    kept := Binary64.stored_stored _
    clock := by
      show Option.map _ (Option.map _ _) = _
      rw [Option.map_map]
      rfl }

/-- A change that takes away nothing that the view needs, and brings in nothing that the columns
cannot hold or the view cannot read. -/
structure CustomerChange.IsSound (change : CustomerChange) : Prop where
  name : change.name ≠ .given none
  email : change.email ≠ .given none ∧
    change.email.All fun given => ∀ address ∈ given, Email.IsReadable address
  totalSpend : change.totalSpend ≠ .given none
  visits : change.visits ≠ .given none ∧
    change.visits.All fun given => ∀ n ∈ given, fitsColumn n = true
  tags : change.tags ≠ .given none

/-- What the change does not mention stays as it was. -/
structure CustomerChange.Keeps (change : CustomerChange) (row changed : Customer) : Prop where
  id : changed.id = row.id
  name : change.name = .absent → changed.name = row.name
  email : change.email = .absent → changed.email = row.email
  phone : change.phone = .absent → changed.phone = row.phone
  totalSpend : change.totalSpend = .absent → changed.totalSpend = row.totalSpend
  visits : change.visits = .absent → changed.visits = row.visits
  lastVisit : change.lastVisit = .absent → changed.lastVisit = row.lastVisit
  tags : change.tags = .absent → changed.tags = row.tags
  createdAt : changed.createdAt = row.createdAt

theorem CustomerChange.Keeps.refl (change : CustomerChange) (row : Customer) :
    change.Keeps row row := by
  constructor <;> simp

/-- What a change brings in can be kept. -/
structure CustomerChange.BringsSound (change : CustomerChange) : Prop where
  name : change.name.All fun given => ∀ text ∈ given, IsBounded 1 255 text
  phone : change.phone.All fun given => ∀ text ∈ given, IsBounded 0 50 text
  totalSpend : change.totalSpend.All fun given => ∀ spend ∈ given, spend.isNonnegative = true
  visits : change.visits.All fun given => ∀ n ∈ given, 0 ≤ n
  tags : change.tags.All fun given => ∀ texts ∈ given, ∀ tag ∈ texts, Text.isWhole tag = true

section
variable {change : CustomerChange} {row changed : Customer}

theorem CustomerChange.bringsSound {origin : Origin} {value : Value} (json : IsJson value)
    (read : CustomerChange.read origin value = .accepted change) : change.BringsSound := by
  obtain ⟨given, fields, isRead⟩ := CustomerChange.isRead read
  obtain rfl := fields_of_json json fields
  exact {
    name := permitted_found (returns_nullable (returns_boundedText 1 255) (by simp)) json
      isRead.name
    phone := permitted_found (returns_nullable (returns_boundedText 0 50) (by simp)) json
      isRead.phone
    totalSpend := permitted_found (returns_nullable returns_amount (by simp)) json
      isRead.totalSpend
    visits := permitted_found (returns_nullable (returns_integerFrom 0) (by simp)) json
      isRead.visits
    tags := permitted_found (returns_nullable returns_texts (by simp [Value.ofTexts])) json
      isRead.tags }

theorem CustomerChange.Makes.isSound (makes : change.Makes row changed)
    (brings : change.BringsSound) (sound : change.IsSound) (before : row.IsSound) :
    changed.IsSound := by
  obtain ⟨spend, chosen, stored⟩ := makes.totalSpend
  exact {
    name := brings.name.orKept? before.name makes.name
    email := sound.email.2.orKept? before.email makes.email
    phone := by
      rw [makes.phone]
      exact brings.phone.getD before.phone
    spend := by
      rw [stored, Binary64.isNonnegative_stored]
      exact brings.totalSpend.orKept? before.spend chosen
    visits := brings.visits.orKept? before.visits makes.visits
    fits := sound.visits.2.orKept? before.fits makes.visits
    tags := by
      rw [makes.tags]
      match said : change.tags with
      | .absent => exact before.tags
      | .given none => exact absurd said sound.tags
      | .given (some texts) => exact ⟨texts, rfl, brings.tags _ said texts rfl⟩
    kept := by
      rw [stored]
      exact Binary64.stored_stored spend
    clock := by
      rw [makes.lastVisit, Option.map_map]
      rfl }

theorem CustomerChange.Makes.keeps (makes : change.Makes row changed) (before : row.IsSound) :
    change.Keeps row changed where
  id := makes.id
  name := Entry.kept_of_absent makes.name
  email := Entry.kept_of_absent makes.email
  phone unsaid := by
    rw [makes.phone, unsaid]
    rfl
  totalSpend unsaid := by
    obtain ⟨spend, chosen, stored⟩ := makes.totalSpend
    rw [stored, Entry.kept_of_absent chosen unsaid, before.kept]
  visits := Entry.kept_of_absent makes.visits
  lastVisit unsaid := by
    rw [makes.lastVisit, unsaid]
    exact before.clock
  tags unsaid := by
    rw [makes.tags, unsaid]
    rfl
  createdAt := makes.createdAt

end

section
variable {db : Database} {now : Moment} {id : Int} {change : CustomerChange} {row : Customer}

/-- Refuses a change to an address that another customer has. -/
def Directory.ensureFree (db : Database) (id : Int) (change : CustomerChange) : Except Halt Unit :=
  match change.email with
  | .given (some email) => ensureEmailFree db email (some id)
  | _ => pure ()

theorem Directory.update_eq (got : db.customers.get .customer id = .ok row) :
    update db now id change = (do
      ensureFree db id change
      let changed ← orFail (changed? now change row)
      ensureFits changed.visits
      return ⟨{ db with customers := db.customers.replace changed }, changed.view?⟩) := by
  unfold update ensureFree
  rw [got]
  cases change.email with
  | absent => rfl
  | given given => cases given <;> rfl

end

theorem Intake.visited_isSound {customer : Customer} {amount : Binary64}
    (before : customer.IsSound) (nonnegative : amount.isNonnegative = true) {now : Moment}
    (fits : fitsColumn (visited now amount customer).visits) :
    (visited now amount customer).IsSound where
  name := before.name
  email := before.email
  phone := before.phone
  spend := by
    show (customer.totalSpend.add amount).stored.isNonnegative = true
    rw [Binary64.isNonnegative_stored]
    exact Binary64.isNonnegative_add before.spend nonnegative
  visits := Int.add_nonneg before.visits (by decide)
  fits
  tags := before.tags
  kept := Binary64.stored_stored _
  clock := rfl

end Outreach
