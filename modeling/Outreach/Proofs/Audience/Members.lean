import Outreach.Audience.Membership
import Outreach.Proofs.Audience.Scan
import Outreach.Proofs.Outcome

/-! The members of an audience. They are met in the order of their numbers and each at most once,
whatever the size of a page. Where every customer can be judged, the members are exactly the
customers who belong to the audience; else the first who cannot be judged ends the search. -/

namespace Outreach.Audience

variable {rule : Rule} {ending : Ending} {found : Nat}

/-- The verdict of a rule on a stored customer. -/
def verdict (rule : Rule) (customer : Customer) : Except Failure Bool := do
  judge rule (← snapshot customer)

/-- Whether a rule holds for a stored customer. -/
def holds (rule : Rule) (customer : Customer) : Bool := (verdict rule customer).toOption.getD false

/-- A customer as it is met among the members: with the snapshot on which it was judged. -/
def IsSnapshot (customer : Customer) (member : Member) : Prop :=
  member.customer = customer ∧ snapshot customer = .ok member.profile

theorem customers_eq {customers : List Customer} {members : List Member}
    (snapshots : List.Forall₂ IsSnapshot customers members) :
    members.map Member.customer = customers := by
  induction snapshots with
  | nil => rfl
  | cons isSnapshot _ ih => rw [List.map_cons, isSnapshot.1, ih]

/-- The customers met, in the order in which they are met. -/
def Members.customers (members : Members) : List Customer := members.found.map Member.customer

/-- Every search that is not given up. -/
def unlimited : Nat → Bool := fun _ => false

theorem includes_eq {store : ValueStore} {written : Value} (read : ruleOf store written = .ok rule)
    (customer : Customer) : includes store written customer = verdict rule customer := by
  unfold includes verdict
  rw [read]
  cases snapshot customer <;> rfl

theorem isMember_eq {written : Value} (read : ruleOf [] written = .ok rule) (customer : Customer) :
    isMember written customer = verdict rule customer := includes_eq read customer

theorem holds_of_ok {customer : Customer} {answer : Bool}
    (judged : verdict rule customer = .ok answer) : holds rule customer = answer := by
  rw [holds, judged]
  rfl

/-- A customer who can be judged is passed over or met. Then the search is given up, or goes on. -/
theorem membersFrom_cons {customer : Customer} {answer : Bool} {enough : Nat → Bool}
    (judged : verdict rule customer = .ok answer) (rest : List Customer) :
    ∃ member, IsSnapshot customer member ∧
      membersFrom rule ending enough found (customer :: rest) =
        if answer then
          if enough (found + 1) then ⟨[member], none⟩
          else
            ⟨member :: (membersFrom rule ending enough (found + 1) rest).found,
              (membersFrom rule ending enough (found + 1) rest).failure⟩
        else membersFrom rule ending enough found rest := by
  obtain ⟨profile, taken, judged⟩ := bind_eq_ok_iff.mp judged
  refine ⟨⟨customer, profile⟩, ⟨rfl, taken⟩, ?_⟩
  rw [membersFrom, taken]
  simp only [judged]
  cases answer <;> rfl

/-- A customer who cannot be judged ends the search. -/
theorem membersFrom_failed {customer : Customer} {failure : Failure} {enough : Nat → Bool}
    (refused : verdict rule customer = .error failure) (rest : List Customer) :
    membersFrom rule ending enough found (customer :: rest) = ⟨[], some failure⟩ := by
  rw [membersFrom]
  rcases bind_eq_error_iff.mp refused with untaken | ⟨profile, taken, refused⟩
  · rw [untaken]
  · rw [taken]
    simp only [refused]

/-- Customers who can all be judged are passed over or met one after the other. -/
theorem membersFrom_append {before : List Customer}
    (judged : ∀ customer ∈ before, ∃ answer, verdict rule customer = .ok answer)
    (rest : List Customer) (found : Nat) :
    ∃ met next, List.Forall₂ IsSnapshot (before.filter (holds rule)) met ∧
      (membersFrom rule ending unlimited found (before ++ rest)).found =
        met ++ (membersFrom rule ending unlimited next rest).found ∧
      (membersFrom rule ending unlimited found (before ++ rest)).failure =
        (membersFrom rule ending unlimited next rest).failure := by
  induction before generalizing found with
  | nil => exact ⟨[], found, .nil, rfl, rfl⟩
  | cons customer before ih =>
    rw [List.forall_mem_cons] at judged
    obtain ⟨⟨answer, here⟩, later⟩ := judged
    obtain ⟨member, isSnapshot, step⟩ := membersFrom_cons here (before ++ rest)
    rw [List.cons_append, step, List.filter_cons, holds_of_ok here]
    cases answer with
    | true =>
      obtain ⟨met, last, snapshots, members, failure⟩ := ih later (found + 1)
      refine ⟨member :: met, last, .cons isSnapshot snapshots, ?_, failure⟩
      rw [List.cons_append, ← members]
      rfl
    | false => exact ih later found

/-- A row of customers can be judged throughout, or there is a first who cannot. -/
theorem judged_or_first_failure (rule : Rule) (customers : List Customer) :
    (∀ customer ∈ customers, ∃ answer, verdict rule customer = .ok answer) ∨
    ∃ before customer after failure, customers = before ++ customer :: after ∧
      (∀ earlier ∈ before, ∃ answer, verdict rule earlier = .ok answer) ∧
      verdict rule customer = .error failure := by
  induction customers with
  | nil => simp
  | cons customer rest ih =>
    cases here : verdict rule customer with
    | error failure => exact .inr ⟨[], customer, rest, failure, rfl, by simp, here⟩
    | ok answer =>
      rcases ih with all | ⟨before, culprit, after, failure, rfl, judged, refused⟩
      · left
        rw [List.forall_mem_cons]
        exact ⟨⟨answer, here⟩, all⟩
      · refine .inr ⟨customer :: before, culprit, after, failure, rfl, ?_, refused⟩
        rw [List.forall_mem_cons]
        exact ⟨⟨answer, here⟩, judged⟩

/-! ### Whole tables -/

/-- A size that pages can have: there is room for one customer, and a column holds it. -/
structure IsPageSize (size : Int) : Prop where
  positive : 0 < size
  fits : fitsColumn size

variable {size : Int} {table : Table Customer} {store : ValueStore} {written : Value}

theorem customersOf_eq (paged : IsPageSize size) :
    customersOf size table = .ok ⟨table.rows, .complete⟩ := by
  rw [customersOf, if_pos paged.fits, scan_complete paged.positive]

theorem members_eq (paged : IsPageSize size) (read : ruleOf store written = .ok rule)
    (enough : Nat → Bool) :
    members size table store written enough = membersFrom rule .complete enough 0 table.rows := by
  rw [members, read, customersOf_eq paged]

/-- Where all customers can be judged, the members are those for whom the rule holds. -/
theorem members_complete (paged : IsPageSize size) (read : ruleOf store written = .ok rule)
    (judged : ∀ customer ∈ table.rows, ∃ answer, verdict rule customer = .ok answer) :
    List.Forall₂ IsSnapshot (table.rows.filter (holds rule))
        (members size table store written unlimited).found ∧
      (members size table store written unlimited).failure = none := by
  obtain ⟨met, next, snapshots, members, failure⟩ := membersFrom_append judged [] 0
  rw [List.append_nil] at members failure
  rw [members_eq paged read, members, failure]
  simp only [membersFrom, List.append_nil]
  exact ⟨snapshots, rfl⟩

/-- The first customer who cannot be judged ends the search. -/
theorem members_failed (paged : IsPageSize size) (read : ruleOf store written = .ok rule)
    {before after : List Customer} {customer : Customer} {failure : Failure}
    (split : table.rows = before ++ customer :: after)
    (judged : ∀ earlier ∈ before, ∃ answer, verdict rule earlier = .ok answer)
    (refused : verdict rule customer = .error failure) :
    List.Forall₂ IsSnapshot (before.filter (holds rule))
        (members size table store written unlimited).found ∧
      (members size table store written unlimited).failure = some failure := by
  obtain ⟨met, next, snapshots, members, ended⟩ :=
    membersFrom_append judged (customer :: after) 0
  rw [members_eq paged read, split, members, ended, membersFrom_failed refused]
  rw [List.append_nil]
  exact ⟨snapshots, rfl⟩

/-! ### Any page size -/

theorem membersFrom_sublist (rule : Rule) (ending : Ending) (found : Nat)
    (customers : List Customer) :
    ((membersFrom rule ending unlimited found customers).found.map Member.customer).Sublist
      customers := by
  induction customers generalizing found with
  | nil => exact .slnil
  | cons customer rest ih =>
    cases here : verdict rule customer with
    | error failure =>
      rw [membersFrom_failed here]
      exact List.nil_sublist _
    | ok answer =>
      obtain ⟨member, ⟨same, -⟩, step⟩ := membersFrom_cons here rest
      rw [step]
      cases answer with
      | true =>
        simp only [if_true, unlimited, Bool.false_eq_true, if_false, List.map_cons, same]
        exact (ih (found + 1)).cons_cons customer
      | false => exact (ih found).cons customer

/-- Whatever the size of a page, no customer is met twice. -/
theorem members_ascending (size : Int) (table : Table Customer) (written : Value) :
    ((members size table [] written unlimited).found.map fun member => member.customer.id).Pairwise
      (· < ·) := by
  have nothing : ([] : List Int).Pairwise (· < ·) := .nil
  unfold members
  split
  next => exact nothing
  next => exact nothing
  next rule paged _ scanned =>
    unfold customersOf at scanned
    split at scanned
    next =>
      cases scanned
      have ascending : (scan size table).customers.Pairwise fun a b => a.id < b.id :=
        (scanFrom_ascending size 0 _).2
      have within := membersFrom_sublist rule (scan size table).ending 0 (scan size table).customers
      have sorted := ascending.sublist within
      rw [List.pairwise_map] at sorted ⊢
      exact sorted
    next => cases scanned

end Outreach.Audience
