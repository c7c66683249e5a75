import Outreach.Customer.View
import Outreach.Proofs.Audience.Agreement
import Outreach.Proofs.Email.Plain
import Outreach.Proofs.Order.Shown
import Outreach.Proofs.Schema.Accepted
import Outreach.Proofs.Segment.Counted

/-! What customers have spent, as a number that rules compare. Requests bring in no number below zero,
and sums stay at zero or above; but nothing keeps an amount or a sum from being infinite. A finite
spend is read by every rule. An infinite one is refused wherever a rule comes to it, and so one
customer who has it ends every search that looks at the spend first. -/

namespace Outreach

open Api

/-! ### Numbers at zero or above -/

namespace Binary64

theorem isNonnegative_zero (negative : Bool) : (zero negative).isNonnegative := by
  simp [zero, isNonnegative]

theorem isNonnegative_ofParts (significand : Nat) (exponent : Int) :
    (ofParts false significand exponent).isNonnegative := by
  unfold ofParts
  split <;> rfl

theorem isNonnegative_ofQuotient (numerator denominator : Nat) :
    (ofQuotient false numerator denominator).isNonnegative := by
  unfold ofQuotient
  split
  · exact isNonnegative_zero false
  · dsimp only
    split
    · exact isNonnegative_ofParts _ _
    · exact isNonnegative_ofParts _ _

theorem isNonnegative_ofScaled (coefficient : Nat) (exponent : Int) :
    (ofScaled false coefficient exponent).isNonnegative := by
  unfold ofScaled
  split <;> exact isNonnegative_ofQuotient _ _

theorem signedSignificand_nonneg {negative : Bool} {significand : Nat} {exponent : Int}
    {canonical : IsCanonical significand exponent}
    (nonnegative : (finite negative significand exponent canonical).isNonnegative) :
    0 ≤ signedSignificand negative significand := by
  unfold signedSignificand
  cases negative with
  | false => exact Int.natCast_nonneg significand
  | true =>
    have none : significand = 0 := by simpa [isNonnegative] using nonnegative
    simp [none]

/-- A sum of numbers at zero or above is one. -/
theorem isNonnegative_add {x y : Binary64} (left : x.isNonnegative) (right : y.isNonnegative) :
    (x.add y).isNonnegative := by
  cases x with
  | nan => cases left
  | infinite a =>
    cases y with
    | nan => cases right
    | infinite b =>
      cases a with
      | true => cases left
      | false =>
        cases b with
        | true => cases right
        | false => rfl
    | finite b n f shaped => exact left
  | finite a m e formed =>
    cases y with
    | nan => cases right
    | infinite b => exact right
    | finite b n f shaped =>
      have first := Int.mul_nonneg (signedSignificand_nonneg left)
        (Int.natCast_nonneg (powerOfTwo (e - min e f).natAbs))
      have second := Int.mul_nonneg (signedSignificand_nonneg right)
        (Int.natCast_nonneg (powerOfTwo (f - min e f).natAbs))
      have positive := Int.add_nonneg first second
      unfold add
      dsimp only
      split
      · exact isNonnegative_zero _
      · rw [decide_eq_false (Int.not_lt.mpr positive)]
        exact isNonnegative_ofScaled _ _

@[simp] theorem isNonnegative_stored (x : Binary64) : x.stored.isNonnegative = x.isNonnegative := by
  cases x with
  | finite negative significand exponent canonical =>
    by_cases none : significand = 0
    · simp [stored, none, zero, isNonnegative]
    · simp [stored, none]
  | infinite | nan => rfl

@[simp] theorem isFinite_stored (x : Binary64) : x.stored.isFinite = x.isFinite := by
  cases x with
  | finite negative significand exponent canonical =>
    by_cases none : significand = 0
    · simp [stored, none, zero, isFinite]
    · simp [stored, none]
  | infinite | nan => rfl

end Binary64

/-! ### Fields as they are read

Each field of a draft or of a change is what the reader of that field made of it. -/

section

open Schema

/-- The fields of a draft as they were read. -/
structure CustomerDraft.IsRead (given : List (Value × Value)) (draft : CustomerDraft) : Prop where
  name : required given "name" (boundedText 1 255) = .accepted draft.name
  email : required given "email" Schema.email = .accepted draft.email
  phone : permitted given "phone" (nullable (boundedText 0 50)) = .accepted draft.phone
  totalSpend : permitted given "total_spend" amount = .accepted draft.totalSpend
  visits : permitted given "visits" (integerFrom 0) = .accepted draft.visits
  lastVisit : permitted given "last_visit" (nullable moment) = .accepted draft.lastVisit
  tags : permitted given "tags" (list text) = .accepted draft.tags

theorem CustomerDraft.isRead {given : List (Value × Value)} {draft : CustomerDraft}
    (built : CustomerDraft.ofFields given = .accepted draft) : draft.IsRead given := by
  simp only [CustomerDraft.ofFields, Checked.seq_eq_accepted_iff,
    Checked.map_eq_accepted_iff] at built
  obtain ⟨_, _, ⟨_, _, ⟨_, _, ⟨_, _, ⟨_, _, ⟨_, _, ⟨_, name, rfl⟩, email, rfl⟩, phone, rfl⟩,
    totalSpend, rfl⟩, visits, rfl⟩, lastVisit, rfl⟩, tags, rfl⟩ := built
  exact ⟨name, email, phone, totalSpend, visits, lastVisit, tags⟩

/-- The fields of a change as they were read. -/
structure CustomerChange.IsRead (given : List (Value × Value)) (change : CustomerChange) :
    Prop where
  name : permitted given "name" (nullable (boundedText 1 255)) = .accepted change.name
  email : permitted given "email" (nullable Schema.email) = .accepted change.email
  phone : permitted given "phone" (nullable (boundedText 0 50)) = .accepted change.phone
  totalSpend : permitted given "total_spend" (nullable amount) = .accepted change.totalSpend
  visits : permitted given "visits" (nullable (integerFrom 0)) = .accepted change.visits
  lastVisit : permitted given "last_visit" (nullable moment) = .accepted change.lastVisit
  tags : permitted given "tags" (nullable (list text)) = .accepted change.tags

theorem CustomerChange.isRead {origin : Origin} {value : Value} {change : CustomerChange}
    (read : CustomerChange.read origin value = .accepted change) :
    ∃ given, fieldsOf? origin value = some given ∧ change.IsRead given := by
  obtain ⟨given, fields, built⟩ := record_accepted read
  simp only [Checked.seq_eq_accepted_iff, Checked.map_eq_accepted_iff] at built
  obtain ⟨_, _, ⟨_, _, ⟨_, _, ⟨_, _, ⟨_, _, ⟨_, _, ⟨_, name, rfl⟩, email, rfl⟩, phone, rfl⟩,
    totalSpend, rfl⟩, visits, rfl⟩, lastVisit, rfl⟩, tags, rfl⟩ := built
  exact ⟨given, fields, name, email, phone, totalSpend, visits, lastVisit, tags⟩

end

/-! ### Customers of known types -/

/-- The spend of a customer is at zero or above, and the tags are texts or taken away. -/
structure Customer.IsTyped (customer : Customer) : Prop where
  spend : customer.totalSpend.isNonnegative
  tags : (∃ texts, customer.tags = .ofTexts texts) ∨ customer.tags = .null

theorem Customer.IsTyped.withId {customer : Customer} (typed : customer.IsTyped) (n : Int) :
    (Row.withId n customer).IsTyped := ⟨typed.spend, typed.tags⟩

theorem amount_accepted {value : Value} {x : Binary64}
    (read : Schema.amount value = .accepted x) : x.isNonnegative := by
  obtain ⟨number, -, kept⟩ := Checked.andThen_eq_accepted_iff.mp read
  split at kept
  next nonnegative =>
    cases kept
    exact nonnegative
  next => cases kept

theorem CustomerDraft.newRow_isTyped {origin : Origin} {value : Value} {draft : CustomerDraft}
    (read : CustomerDraft.read origin value = .accepted draft) (now : Moment) :
    (Directory.newRow now draft).IsTyped where
  spend := by
    obtain ⟨given, -, built⟩ := Schema.record_accepted read
    have spend := (CustomerDraft.isRead built).totalSpend
    show (draft.totalSpend.getD (.zero false)).stored.isNonnegative
    rw [Binary64.isNonnegative_stored]
    cases said : draft.totalSpend with
    | absent => exact Binary64.isNonnegative_zero false
    | given x =>
      rw [said] at spend
      obtain ⟨_, -, accepted⟩ := Schema.permitted_given spend
      exact amount_accepted accepted
  tags := .inl ⟨_, rfl⟩

theorem CustomerChange.Makes.isTyped {origin : Origin} {value : Value} {change : CustomerChange}
    (read : CustomerChange.read origin value = .accepted change) {row changed : Customer}
    (makes : change.Makes row changed) (before : row.IsTyped) : changed.IsTyped := by
  obtain ⟨_, -, isRead⟩ := CustomerChange.isRead read
  obtain ⟨spend, chosen, stored⟩ := makes.totalSpend
  constructor
  · rw [stored, Binary64.isNonnegative_stored]
    rcases Entry.orKept?_eq_some_iff.mp chosen with ⟨-, rfl⟩ | said
    · exact before.spend
    · have brought := isRead.totalSpend
      rw [said] at brought
      obtain ⟨_, -, accepted⟩ := Schema.permitted_given brought
      exact amount_accepted (Schema.nullable_some accepted)
  · rw [makes.tags]
    cases change.tags with
    | absent => exact before.tags
    | given given =>
      cases given with
      | none => exact .inr rfl
      | some texts => exact .inl ⟨texts, rfl⟩

theorem visited_isTyped {customer : Customer} {amount : Binary64} (before : customer.IsTyped)
    (nonnegative : amount.isNonnegative) (now : Moment) :
    (Intake.visited now amount customer).IsTyped where
  spend := by
    show (customer.totalSpend.add amount).stored.isNonnegative
    rw [Binary64.isNonnegative_stored]
    exact Binary64.isNonnegative_add before.spend nonnegative
  tags := before.tags

theorem OrderDraft.amount_nonnegative {origin : Origin} {value : Value} {draft : OrderDraft}
    (read : OrderDraft.read origin value = .accepted draft) : draft.amount.isNonnegative := by
  obtain ⟨given, -, isRead⟩ := OrderDraft.isRead read
  obtain ⟨_, -, accepted⟩ := Schema.required_accepted isRead.amount
  exact amount_accepted accepted

/-- The customers of the database are of the types that rules expect. -/
def HasTypedCustomers (db : Database) : Prop := ∀ customer ∈ db.customers.rows, customer.IsTyped

theorem readItems_mem {items : List Value} {drafts : List CustomerDraft}
    (read : Directory.readItems items = .ok drafts) {draft : CustomerDraft}
    (member : draft ∈ drafts) : ∃ item ∈ items, CustomerDraft.read .data item = .accepted draft := by
  induction items generalizing drafts with
  | nil =>
    cases read
    cases member
  | cons item rest ih =>
    unfold Directory.readItems at read
    split at read
    next first accepted =>
      obtain ⟨others, later, rfl⟩ := map_eq_ok_iff.mp read
      rcases List.mem_cons.mp member with rfl | among
      · exact ⟨item, List.mem_cons_self .., accepted⟩
      · obtain ⟨other, placed, made⟩ := ih later among
        exact ⟨other, List.mem_cons_of_mem _ placed, made⟩
    next => cases read

theorem hasTypedCustomers_kept : IsKept HasTypedCustomers where
  users _ _ before := before
  writes env db request user action written before carries write := by
    obtain ⟨task, arguments, body, -, -, read⟩ := carries.read
    have told := told_of_read read
    intro customer member
    cases customer_origin write member with
    | kept old => exact before customer old
    | created fits =>
      obtain ⟨value, -, accepted⟩ := told
      exact (CustomerDraft.newRow_isTyped accepted env.now).withId _
    | imported items among fits =>
      obtain ⟨item, -, accepted⟩ := readItems_mem items among
      exact (CustomerDraft.newRow_isTyped accepted env.now).withId _
    | changed old makes fits =>
      obtain ⟨value, -, accepted⟩ := told
      exact makes.isTyped accepted (before _ old)
    | visited found fits =>
      obtain ⟨value, -, accepted⟩ := told
      have old := before _ (Table.find?_eq_some_iff.mp found).1
      exact visited_isTyped old (OrderDraft.amount_nonnegative accepted) env.now

theorem run_typed {start : Database} (empty : HoldsOnlyUsers start) (visits : List Visit) :
    HasTypedCustomers (run start visits) := by
  refine hasTypedCustomers_kept.run (fun customer member => ?_) visits
  rw [empty.customers] at member
  cases member

/-! ### Rules that compare the spend -/

/-- The field under which rules name the spend. -/
def Field.totalSpend : Field := ⟨"totalSpend", "total_spend", .number, "Lifetime order amount"⟩

/-- A rule comes to a field before any other: its first leaf compares it. -/
inductive Rule.ComesTo (field : Field) : Rule → Prop where
  | leaf {name : FieldName} {operator : Operator} {value : Value}
      (named : Registry.standard.resolve (.ofFieldName name) = .ok field) :
      Rule.ComesTo field (.leaf name operator value)
  | composite {condition : Condition} {first : Rule} {rest : List Rule}
      (ahead : Rule.ComesTo field first) : Rule.ComesTo field (.composite condition (first :: rest))

/-- What cannot be read of a customer refuses every rule that comes to it. -/
theorem Rule.ComesTo.refused {field : Field} {rule : Rule} (comes : rule.ComesTo field)
    {subject : Subject} {e : RuleError} (unread : field.read subject = .error e) :
    rule.evaluate Registry.standard subject = .error (.rule e) := by
  induction comes with
  | leaf named =>
    unfold Rule.evaluate Rule.evaluateLeaf
    rw [named]
    dsimp only
    rw [unread]
  | @composite condition first rest ahead ih =>
    cases condition with
    | all =>
      unfold Rule.evaluate Rule.evaluateAll
      rw [ih]
    | any =>
      unfold Rule.evaluate Rule.evaluateAny
      rw [ih]

namespace Customer

/-- The spend of the customer is read as it stands. -/
def HasReadableSpend (customer : Customer) : Prop :=
  ∃ profile, customer.profile? = some profile ∧
    Field.totalSpend.read profile.subject = .ok (.float customer.totalSpend)

/-- The spend of the customer is refused as none that can be compared. -/
def HasRefusedSpend (customer : Customer) : Prop :=
  ∃ profile e, customer.profile? = some profile ∧
    Field.totalSpend.read profile.subject = .error e ∧ e.kind = .typeMismatch

theorem IsTyped.profile {customer : Customer} (typed : customer.IsTyped) :
    ∃ profile, customer.profile? = some profile ∧
      Field.totalSpend.raw? profile.subject = some (.float customer.totalSpend) := by
  have tags : ∃ tags, Profile.tagTuple? customer.tags = some tags := by
    rcases typed.tags with ⟨texts, same⟩ | same
    · rw [same, Profile.tagTuple?]
      by_cases none : (Value.ofTexts texts).isEmpty
      · exact ⟨_, if_pos none⟩
      · exact ⟨_, if_neg none⟩
    · exact ⟨.tuple [], by rw [same]; rfl⟩
  obtain ⟨tags, made⟩ := tags
  have found : customer.profile? = (Profile.tagTuple? customer.tags).map _ := rfl
  rw [made] at found
  exact ⟨_, found, rfl⟩

/-- A finite spend is read, and any other is refused. -/
theorem IsTyped.spend_cases {customer : Customer} (typed : customer.IsTyped) :
    (customer.totalSpend.isFinite ∧ customer.HasReadableSpend) ∨
      (¬ customer.totalSpend.isFinite ∧ customer.HasRefusedSpend) := by
  obtain ⟨profile, taken, held⟩ := typed.profile
  have read : Field.totalSpend.read profile.subject =
      if customer.totalSpend.isFinite then .ok (.float customer.totalSpend)
      else Field.mismatch (.unfit "totalSpend" .finiteNumber (.float customer.totalSpend)) := by
    rw [Field.read, held]
    rfl
  by_cases finite : customer.totalSpend.isFinite
  · rw [if_pos finite] at read
    exact .inl ⟨finite, profile, taken, read⟩
  · rw [if_neg finite] at read
    exact .inr ⟨finite, profile, _, taken, read, rfl⟩

end Customer

/-- One customer whose spend is refused ends every search by a rule that comes to the spend. -/
theorem Audience.fails_of_refusedSpend {table : Table Customer} {customer : Customer}
    (member : customer ∈ table.rows) (refused : customer.HasRefusedSpend) {written : Value}
    {rule : Rule} (read : Audience.ruleOf [] written = .ok rule)
    (comes : rule.ComesTo Field.totalSpend) {size : Int} (positive : 0 < size) (most : Int) :
    ∃ before failure, Audience.FailAlike size most table [] written before failure := by
  by_cases fits : fitsColumn size
  · rcases Audience.judged_or_first_failure rule table.rows with
      judged | ⟨before, first, after, failure, split, judged, unjudged⟩
    · obtain ⟨profile, e, taken, unread, -⟩ := refused
      obtain ⟨answer, judgement⟩ := judged customer member
      rw [Audience.verdict, Audience.snapshot, taken] at judgement
      have ended : Audience.judge rule profile = .error (.evaluation (.rule e)) := by
        rw [Audience.judge, comes.refused unread]
        rfl
      cases ended.symm.trans judgement
    · exact ⟨_, failure,
        Audience.failAlike_of_refused ⟨positive, fits⟩ read split judged unjudged⟩
  · exact ⟨[], _, Audience.failAlike_of_oversized read fits⟩

/-! ### What makes a spend infinite -/

/-- Every customer of the database has spent a finite amount. -/
def HasFiniteSpend (db : Database) : Prop :=
  ∀ customer ∈ db.customers.rows, customer.totalSpend.isFinite

namespace Api

/-- An action brings in a spend that is not finite, or an amount that makes the sum be none. -/
def Action.Overspends (db : Database) : Action → Prop
  | createCustomer draft => ¬ (draft.totalSpend.getD (.zero false)).isFinite
  | importCustomers payload => ∃ items drafts, payload = .list items ∧
      Directory.readItems items = .ok drafts ∧
      ∃ draft ∈ drafts, ¬ (draft.totalSpend.getD (.zero false)).isFinite
  | updateCustomer _ change => ∃ spend, change.totalSpend = .given (some spend) ∧ ¬ spend.isFinite
  | createOrder draft => ∃ customer, db.customers.find? draft.customer = some customer ∧
      ¬ (customer.totalSpend.add draft.amount).isFinite
  | _ => False

/-- A visit is carried out that brings in a spend that is not finite. -/
def Visit.Overspends (visit : Visit) (db : Database) : Prop :=
  ∃ user action effect, visit.Carries db user action ∧
    action.perform visit.environment db user = .ok effect ∧ action.Overspends db

section
variable {env : Environment} {db written : Database} {user : User} {action : Action}

theorem newRow_isFinite (now : Moment) (draft : CustomerDraft) :
    (Directory.newRow now draft).totalSpend.isFinite =
      (draft.totalSpend.getD (.zero false)).isFinite := Binary64.isFinite_stored _

/-- A write keeps every spend finite that does not bring in one that is not. -/
theorem Write.finite (write : Write env db user action written) (before : HasFiniteSpend db)
    (modest : ¬ action.Overspends db) : HasFiniteSpend written := by
  intro customer member
  cases customer_origin write member with
  | kept old => exact before customer old
  | @created n draft fits =>
    show (Directory.newRow env.now draft).totalSpend.isFinite
    rw [newRow_isFinite]
    exact not_not.mp modest
  | @imported n items drafts draft read among fits =>
    show (Directory.newRow env.now draft).totalSpend.isFinite
    rw [newRow_isFinite]
    by_contra infinite
    exact modest ⟨items, drafts, rfl, read, draft, among, infinite⟩
  | changed old makes fits =>
    obtain ⟨spend, chosen, stored⟩ := makes.totalSpend
    rw [stored, Binary64.isFinite_stored]
    rcases Entry.orKept?_eq_some_iff.mp chosen with ⟨-, rfl⟩ | said
    · exact before _ old
    · by_contra infinite
      exact modest ⟨spend, said, infinite⟩
  | @visited draft row found fits =>
    show (row.totalSpend.add draft.amount).stored.isFinite
    rw [Binary64.isFinite_stored]
    by_contra infinite
    exact modest ⟨row, found, infinite⟩

/-- A write that brings in a spend that is not finite leaves a customer who has it. -/
theorem Write.infinite (write : Write env db user action written)
    (overspends : action.Overspends db) :
    ∃ customer ∈ written.customers.rows, ¬ customer.totalSpend.isFinite := by
  cases write with
  | @createCustomer draft free fits =>
    obtain ⟨n, stored⟩ := Table.exists_mem_insertAll db.customers
      (List.mem_singleton_self (Directory.newRow env.now draft))
    refine ⟨_, stored, ?_⟩
    show ¬ (Directory.newRow env.now draft).totalSpend.isFinite
    rw [newRow_isFinite]
    exact overspends
  | @importCustomers items drafts read distinct free fits =>
    obtain ⟨_, others, same, again, draft, member, infinite⟩ := overspends
    cases same
    cases read.symm.trans again
    obtain ⟨n, stored⟩ := Table.exists_mem_insertAll db.customers
      (List.mem_map_of_mem member : Directory.newRow env.now draft ∈ _)
    refine ⟨_, stored, ?_⟩
    show ¬ (Directory.newRow env.now draft).totalSpend.isFinite
    rw [newRow_isFinite]
    exact infinite
  | @updateCustomer id change row changed found free made fits =>
    obtain ⟨spend, said, infinite⟩ := overspends
    have old := (Table.find?_eq_some_iff.mp found).1
    have makes := Directory.changed?_makes made
    obtain ⟨other, chosen, stored⟩ := makes.totalSpend
    rw [said] at chosen
    cases chosen
    refine ⟨changed, Table.mem_replace_iff.mpr (.inr ⟨rfl, row, old, makes.id.symm⟩), ?_⟩
    rwa [stored, Binary64.isFinite_stored]
  | @createOrder draft customer found free fits =>
    obtain ⟨_, same, infinite⟩ := overspends
    cases found.symm.trans same
    have old := (Table.find?_eq_some_iff.mp found).1
    refine ⟨_, Table.mem_replace_iff.mpr (.inr ⟨rfl, customer, old, rfl⟩), ?_⟩
    show ¬ (customer.totalSpend.add draft.amount).stored.isFinite
    rwa [Binary64.isFinite_stored]
  | deleteCustomer | createSegment | updateSegment | deleteSegment | recomputeSegment
  | createCampaign | updateCampaign | deleteCampaign | sendCampaign | recordReceipt =>
    cases overspends

theorem action_infinite {effect : Effect Http.Response}
    (performed : action.perform env db user = .ok effect) (overspends : action.Overspends db) :
    ∃ customer ∈ effect.database.customers.rows, ¬ customer.totalSpend.isFinite := by
  have write : Write env db user action effect.database := by
    cases action with
    | createCustomer draft => exact tell_write (fun _ => createCustomer_write) performed
    | importCustomers payload => exact tell_write (fun _ => importCustomers_write) performed
    | updateCustomer id change => exact tell_write (fun _ => updateCustomer_write) performed
    | createOrder draft => exact tell_write (fun _ => createOrder_write) performed
    | _ => cases overspends
  exact write.infinite overspends

end

/-! ### Runs -/

theorem visited_finite {db : Database} {visit : Visit} (before : HasFiniteSpend db)
    (modest : ¬ visit.Overspends db) : HasFiniteSpend (visited db visit) := by
  rcases visited_cases db visit with
    ⟨user, action, effect, carries, performed, write⟩ | ⟨users, left⟩
  · exact write.finite before fun overspends =>
      modest ⟨user, action, effect, carries, performed, overspends⟩
  · rw [left]
    exact before

/-- The induction is on the last visit: what it leaves is finite, as nothing before was not. -/
theorem run_finite {start : Database} (empty : HoldsOnlyUsers start) (visits : List Visit)
    (modest : ∀ early visit late, visits = early ++ visit :: late →
      ¬ visit.Overspends (run start early)) : HasFiniteSpend (run start visits) := by
  induction visits using List.reverseRecOn with
  | nil =>
    intro customer member
    rw [run_nil, empty.customers] at member
    cases member
  | append_singleton visits last ih =>
    rw [run_concat]
    refine visited_finite (ih fun early visit late split => ?_) (modest visits last [] rfl)
    exact modest early visit (late ++ [last]) (by simp [split])

/-- After any run of requests from a database of users alone, no customer has spent less than zero,
and rules read what a customer has spent if it is finite and refuse it if not. It is finite for all if
no visit brought in what is not, or an amount under which the sum is not; and a visit that does so
leaves a customer who ends every search by a rule that comes to the spend. -/
theorem run_spend_compared {start : Database} (empty : HoldsOnlyUsers start)
    (visits : List Visit) :
    (∀ customer ∈ (run start visits).customers.rows, customer.totalSpend.isNonnegative ∧
      ((customer.totalSpend.isFinite ∧ customer.HasReadableSpend) ∨
        (¬ customer.totalSpend.isFinite ∧ customer.HasRefusedSpend))) ∧
    ((∀ early visit late, visits = early ++ visit :: late → ¬ visit.Overspends (run start early)) →
      HasFiniteSpend (run start visits)) ∧
    ∀ visit, visit.Overspends (run start visits) →
      ∃ customer ∈ (run start (visits ++ [visit])).customers.rows, customer.HasRefusedSpend ∧
        ∀ written rule, Audience.ruleOf [] written = .ok rule → rule.ComesTo Field.totalSpend →
          ∀ size most, 0 < size → ∃ before failure, Audience.FailAlike size most
            (run start (visits ++ [visit])).customers [] written before failure := by
  refine ⟨fun customer member => ?_, run_finite empty visits, fun visit overspends => ?_⟩
  · have typed := run_typed empty visits customer member
    exact ⟨typed.spend, typed.spend_cases⟩
  · obtain ⟨user, action, effect, carries, performed, brings⟩ := overspends
    obtain ⟨customer, member, infinite⟩ := action_infinite performed brings
    rw [← visited_of_carries carries performed, ← run_concat] at member
    have typed := run_typed empty (visits ++ [visit]) customer member
    have refused : customer.HasRefusedSpend := by
      rcases typed.spend_cases with ⟨finite, -⟩ | ⟨-, refused⟩
      · exact absurd finite infinite
      · exact refused
    refine ⟨customer, member, refused, fun written rule read comes size most positive => ?_⟩
    exact Audience.fails_of_refusedSpend member refused read comes positive most

/-! ### A customer who has spent without end -/

namespace Sample

/-- What the user tells of the customer. -/
def lavishFields : List (Value × Value) := [
  (.text "name", .text "Ada"), (.text "email", .text "a@b.cc"),
  (.text "total_spend", .float (.infinite false))]

def lavishDraft : CustomerDraft where
  name := "Ada"
  email := "a@b.cc"
  phone := .absent
  totalSpend := .given (.infinite false)
  visits := .absent
  lastVisit := .absent
  tags := .absent

/-- A number of JSON that is beyond all doubles is read as infinite. -/
def lavishBody : String := "\x7b\"name\":\"Ada\",\"email\":\"a@b.cc\",\"total_spend\":1e999\x7d"

def lavishVisit : Visit := visit "POST" "/api/customers" lavishBody

def lavishCustomer : Customer := { Directory.newRow environment.now lavishDraft with id := 1 }

/-- The database after the user has made the customer. -/
def withLavish : Database := { start with customers := start.customers.insert lavishCustomer }

set_option maxRecDepth 2000 in
theorem jsonContent_lavishBody : jsonContent lavishBody = .ok (.dict lavishFields) := by
  cbv

theorem lavishDraft_read :
    CustomerDraft.read .request (.dict lavishFields) = .accepted lavishDraft := by
  have held : Value.lookup lavishFields "email" = some (.text "a@b.cc") := rfl
  have email := Schema.required_of_lookup held Email.email_sample
  show CustomerDraft.ofFields lavishFields = _
  unfold CustomerDraft.ofFields
  rw [email]
  rfl

theorem lavishVisit_carries : lavishVisit.Carries start user (.createCustomer lavishDraft) := by
  refine carries rfl (by decide) ⟨.createCustomer, [], .given (.dict lavishFields), by cbv,
    bodyFor_visit rfl (by decide +kernel) jsonContent_lavishBody, ?_⟩
  have told : Input.content ⟨[], [], .given (.dict lavishFields)⟩ (CustomerDraft.read .request) =
      .accepted lavishDraft := content_of_yields ⟨_, rfl, lavishDraft_read⟩
  exact Checked.map_eq_accepted_iff.mpr ⟨lavishDraft, told, rfl⟩

theorem lavish_made : visited start lavishVisit = withLavish :=
  visited_of_carries lavishVisit_carries (by rfl)

/-- Any spend at all, as a rule that the user writes. -/
def spendRules : Value := .dict [
  (.text "condition", .text "AND"),
  (.text "rules", .list [.dict [
    (.text "field", .text "totalSpend"), (.text "operator", .text ">"), (.text "value", .int 0)]])]

/-- The rule as it is read. -/
def spendRule : Rule := .composite .all [.leaf (.word "totalSpend") .greater (.int 0)]

end Sample

open Sample in
/-- Once the user has made the customer, a rule that looks at the spend is refused everywhere. -/
theorem lavish_spend_refused :
    HoldsOnlyUsers start ∧ lavishVisit.Overspends (run start []) ∧
    ∃ customer ∈ (run start ([] ++ [lavishVisit])).customers.rows, customer.HasRefusedSpend ∧
      ∃ before failure, Audience.FailAlike 500 10 (run start ([] ++ [lavishVisit])).customers []
        spendRules before failure := by
  have brings : Action.Overspends start (.createCustomer lavishDraft) := by
    show ¬ (Binary64.infinite false).isFinite
    decide
  have overspends : lavishVisit.Overspends (run start []) :=
    ⟨user, _, _, lavishVisit_carries, by rfl, brings⟩
  obtain ⟨customer, member, refused, fails⟩ :=
    (run_spend_compared start_holdsOnlyUsers []).2.2 lavishVisit overspends
  have read : Audience.ruleOf [] spendRules = .ok spendRule := by rfl
  have comes : spendRule.ComesTo Field.totalSpend := .composite (.leaf (by rfl))
  exact ⟨start_holdsOnlyUsers, overspends, customer, member, refused,
    fails spendRules spendRule read comes 500 10 (by decide)⟩

open Sample in
/-- A user brings in a spend that is not finite, and then is refused a preview by the spend. -/
theorem infinite_spend_accepted :
    HoldsOnlyUsers start ∧
    (∃ customer ∈ (run start [lavishVisit]).customers.rows, ¬ customer.totalSpend.isFinite) ∧
    ∃ e : RuleError, e.kind = .typeMismatch ∧
      Action.perform environment (run start [lavishVisit]) user
        (.previewSegment ⟨spendRules, .absent⟩) = .error (.refused (.rule e)) := by
  have reached : run start [lavishVisit] = withLavish := by
    rw [run_cons, lavish_made, run_nil]
  have member : lavishCustomer ∈ withLavish.customers.rows := Table.mem_insert_iff.mpr (.inr rfl)
  have infinite : ¬ lavishCustomer.totalSpend.isFinite := by
    show ¬ (Binary64.infinite false).isFinite
    decide
  have refused : Action.perform environment withLavish user (.previewSegment ⟨spendRules, .absent⟩) =
      .error (.refused (.rule
        ⟨.unfit "totalSpend" .finiteNumber (.float (.infinite false)), none⟩)) := by rfl
  rw [reached]
  exact ⟨start_holdsOnlyUsers, ⟨lavishCustomer, member, infinite⟩, _, rfl, refused⟩

end Api

end Outreach
