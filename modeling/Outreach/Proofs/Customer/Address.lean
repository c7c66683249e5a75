import Outreach.Proofs.Api.References
import Outreach.Proofs.Customer.Shown
import Outreach.Proofs.Email.Whole
import Outreach.Proofs.Problem.Told

/-! Customers have e-mail addresses of their own. The tables do not see to this themselves: each way
in looks for a clash of its own kind, and after any run each of these looks finds exactly the
clashes there are. What clashes is refused before anything is stored, and an address that a customer
has already is none of them. -/

namespace Outreach

open Api

/-- No two customers have one e-mail address. -/
def HasOwnEmails (db : Database) : Prop := (db.customers.rows.map Customer.email).Nodup

/-- An e-mail address is one of a customer who is there. -/
def Database.HoldsEmail (db : Database) (email : String) : Prop :=
  ∃ customer ∈ db.customers.rows, customer.email = email

/-! ### Looking for a clash -/

namespace Directory

variable {db : Database} {email : String}

theorem ensureEmailFree_cases (db : Database) (email : String) (owner : Option Int) :
    (ensureEmailFree db email owner = .ok () ∧
      ∀ customer ∈ db.customers.rows, some customer.id ≠ owner → customer.email ≠ email) ∨
    (ensureEmailFree db email owner = .error (.refused (.emailTaken email)) ∧
      ∃ customer ∈ db.customers.rows, some customer.id ≠ owner ∧ customer.email = email) := by
  unfold ensureEmailFree
  dsimp only
  split
  next taken =>
    obtain ⟨customer, member, held⟩ := List.any_eq_true.mp taken
    have held : customer.email = email ∧ some customer.id ≠ owner := by simpa using held
    exact .inr ⟨rfl, customer, member, held.2, held.1⟩
  next free =>
    refine .inl ⟨rfl, fun customer member other same => free ?_⟩
    exact List.any_eq_true.mpr ⟨customer, member, by simp [same, other]⟩

theorem ensureEmailFree_taken {owner : Option Int} {customer : Customer}
    (member : customer ∈ db.customers.rows) (other : some customer.id ≠ owner)
    (same : customer.email = email) :
    ensureEmailFree db email owner = .error (.refused (.emailTaken email)) := by
  rcases ensureEmailFree_cases db email owner with ⟨-, others⟩ | ⟨taken, -⟩
  · exact absurd same (others customer member other)
  · exact taken

theorem distinct_iff_nodup {texts : List String} : distinct texts = true ↔ texts.Nodup := by
  induction texts with
  | nil => simp [distinct]
  | cons text rest ih => simp [distinct, ih]

theorem mem_takenEmails_iff {emails : List String} :
    email ∈ ((db.customers.rows.map Customer.email).filter emails.contains).mergeSort (· ≤ ·) ↔
      db.HoldsEmail email ∧ email ∈ emails := by
  rw [List.mem_mergeSort, List.mem_filter, List.mem_map, List.contains_iff_mem]
  rfl

theorem takenEmail?_none {emails : List String} (free : takenEmail? db emails = none) :
    ∀ email ∈ emails, ¬ db.HoldsEmail email := by
  intro email among held
  have member := mem_takenEmails_iff.mpr ⟨held, among⟩
  rw [List.head?_eq_none_iff.mp free] at member
  cases member

/-- The address that an import is refused for is one of those it brings in. -/
theorem takenEmail?_some {emails : List String} (among : email ∈ emails)
    (held : db.HoldsEmail email) : ∃ taken ∈ emails, takenEmail? db emails = some taken := by
  cases found : takenEmail? db emails with
  | none => exact absurd held (takenEmail?_none found email among)
  | some taken => exact ⟨taken, (mem_takenEmails_iff.mp (List.mem_of_head? found)).2, rfl⟩

end Directory

/-! ### Every write -/

/-- A customer who keeps the address, or gets one that nobody else has, leaves all addresses
apart. -/
theorem HasOwnEmails.replace {db : Database} (before : HasOwnEmails db) {row changed : Customer}
    (member : row ∈ db.customers.rows) (named : changed.id = row.id)
    (free : changed.email = row.email ∨ ∀ customer ∈ db.customers.rows,
      some customer.id ≠ some row.id → customer.email ≠ changed.email) :
    ((db.customers.replace changed).rows.map Customer.email).Nodup := by
  refine Table.nodup_replace before fun old among other same => ?_
  have other : old.id ≠ row.id := named ▸ other
  rcases free with kept | free
  · have one : old = row := List.inj_on_of_nodup_map before among member (same.trans kept)
    exact other (congrArg Customer.id one)
  · exact free old among (fun equal => other (Option.some.inj equal)) same

namespace Directory

variable {db : Database} {now : Moment} {id : Int} {change : CustomerChange} {row : Customer}

end Directory

/-! ### Clashes -/

/-- The items of an import are read as these customers. -/
def AreRead (items : List Value) (drafts : List CustomerDraft) : Prop :=
  List.Forall₂ (fun item draft => CustomerDraft.read .data item = .accepted draft) items drafts

theorem AreRead.readItems {items : List Value} {drafts : List CustomerDraft}
    (read : AreRead items drafts) : Directory.readItems items = .ok drafts := by
  induction read with
  | nil => rfl
  | cons accepted _ ih =>
    unfold Directory.readItems
    rw [accepted, ih]
    rfl

theorem CustomerDraft.email_whole {origin : Origin} {value : Value} {draft : CustomerDraft}
    (read : CustomerDraft.read origin value = .accepted draft) :
    Text.isWhole draft.email = true := by
  obtain ⟨given, -, built⟩ := Schema.record_accepted read
  obtain ⟨_, -, accepted⟩ := Schema.required_accepted (CustomerDraft.isRead built).email
  exact Email.email_whole accepted

theorem CustomerChange.email_whole {origin : Origin} {value : Value} {change : CustomerChange}
    (read : CustomerChange.read origin value = .accepted change) {email : String}
    (given : change.email = .given (some email)) : Text.isWhole email = true := by
  obtain ⟨fields, -, isRead⟩ := CustomerChange.isRead read
  have brought := isRead.email
  rw [given] at brought
  obtain ⟨_, -, accepted⟩ := Schema.permitted_given brought
  exact Email.email_whole (Schema.nullable_some accepted)

theorem AreRead.email_whole {items : List Value} {drafts : List CustomerDraft}
    (read : AreRead items drafts) : ∀ draft ∈ drafts, Text.isWhole draft.email = true := by
  intro draft member
  obtain ⟨item, -, accepted⟩ := readItems_mem read.readItems member
  exact CustomerDraft.email_whole accepted

theorem Directory.importAll_of_read {db : Database} {now : Moment} {items : List Value}
    {drafts : List CustomerDraft} (read : AreRead items drafts) :
    importAll db now (.list items) =
      if !distinct (drafts.map CustomerDraft.email) then refuse .importOfDuplicates
      else match takenEmail? db (drafts.map CustomerDraft.email) with
        | some email => refuse (.emailTaken email)
        | none => do
            let stored ← store db (drafts.map (newRow now))
            return ⟨stored, some ((stored.customers.rows.drop db.customers.size).map
              Customer.id)⟩ := by
  unfold importAll
  dsimp only
  rw [read.readItems]
  rfl

namespace Api

/-- The action brings in an address that another customer has, or one address twice; and the status
that says so. -/
inductive Action.ClashesWith (db : Database) : Action → Nat → Prop where
  | create {draft : CustomerDraft} (held : db.HoldsEmail draft.email) :
      Action.ClashesWith db (.createCustomer draft) 409
  | update {id : Int} {change : CustomerChange} {row owner : Customer}
      (got : db.customers.get .customer id = .ok row)
      (given : change.email = .given (some owner.email))
      (member : owner ∈ db.customers.rows) (other : owner.id ≠ row.id) :
      Action.ClashesWith db (.updateCustomer id change) 409
  | batch {items : List Value} {drafts : List CustomerDraft} {draft : CustomerDraft}
      (read : AreRead items drafts) (apart : (drafts.map CustomerDraft.email).Nodup)
      (among : draft ∈ drafts) (held : db.HoldsEmail draft.email) :
      Action.ClashesWith db (.importCustomers (.list items)) 409
  | twice {items : List Value} {drafts : List CustomerDraft} (read : AreRead items drafts)
      (shared : ¬ (drafts.map CustomerDraft.email).Nodup) :
      Action.ClashesWith db (.importCustomers (.list items)) 400

section
variable {env : Environment} {db : Database} {request : Http.Request} {user : User}
  {action : Action} {status : Nat}

theorem importOfDuplicates_isTold : Refusal.IsTold .importOfDuplicates where
  errors := rfl
  detail := by decide

/-- A clash is refused, in words that can be sent. -/
theorem Action.ClashesWith.refused (clash : action.ClashesWith db status)
    (carries : Carries env db request user action) :
    ∃ refusal : Refusal, action.perform env db user = .error (.refused refusal) ∧
      refusal.status = status ∧ refusal.IsTold := by
  obtain ⟨task, arguments, body, -, -, accepts⟩ := carries.read
  have told := told_of_read accepts
  cases clash with
  | @create draft held =>
    obtain ⟨value, -, accepted⟩ := told
    obtain ⟨owner, member, same⟩ := held
    have taken : Directory.ensureEmailFree db draft.email none =
        .error (.refused (.emailTaken draft.email)) :=
      Directory.ensureEmailFree_taken member (by simp) same
    refine ⟨_, ?_, rfl, emailTaken_isTold (CustomerDraft.email_whole accepted)⟩
    show tell 201 _ (Directory.create db env.now draft) = _
    unfold Directory.create
    rw [taken]
    rfl
  | @update id change row owner got given member other =>
    obtain ⟨value, -, accepted⟩ := told
    have named : row.id = id := (Table.find?_eq_some_iff.mp (Table.get_eq_ok_iff.mp got).2).2
    have taken : Directory.ensureEmailFree db owner.email (some id) =
        .error (.refused (.emailTaken owner.email)) :=
      Directory.ensureEmailFree_taken member
        (fun same => other (named ▸ Option.some.inj same)) rfl
    refine ⟨_, ?_, rfl, emailTaken_isTold (CustomerChange.email_whole accepted given)⟩
    show tell 200 _ (Directory.update db env.now id change) = _
    rw [Directory.update_eq got, Directory.ensureFree, given]
    dsimp only
    rw [taken]
    rfl
  | @batch items drafts draft read apart among held =>
    have brings : draft.email ∈ drafts.map CustomerDraft.email := List.mem_map_of_mem among
    obtain ⟨taken, brought, found⟩ := Directory.takenEmail?_some brings held
    obtain ⟨other, also, rfl⟩ := List.mem_map.mp brought
    refine ⟨_, ?_, rfl, emailTaken_isTold (AreRead.email_whole read other also)⟩
    show tell 202 _ (Directory.importAll db env.now (.list items)) = _
    rw [Directory.importAll_of_read read, Directory.distinct_iff_nodup.mpr apart, found]
    rfl
  | @twice items drafts read shared =>
    have shared : Directory.distinct (drafts.map CustomerDraft.email) = false :=
      Bool.eq_false_iff.mpr (mt Directory.distinct_iff_nodup.mp shared)
    refine ⟨.importOfDuplicates, ?_, rfl, importOfDuplicates_isTold⟩
    show tell 202 _ (Directory.importAll db env.now (.list items)) = _
    rw [Directory.importAll_of_read read, shared]
    rfl

end

namespace Sample

end Sample

end Api

end Outreach
