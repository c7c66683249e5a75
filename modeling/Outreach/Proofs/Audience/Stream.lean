import Outreach.Proofs.Audience.Members

/-! Streaming all customers. However the table changes between pages, the numbers handed out ascend,
every customer handed out was in the table when the page was asked for, and a stream that comes to
its end has handed out everyone who was there all the time. -/

namespace Outreach.Audience

variable {size : Int} {tables : List (Table Customer)}

/-- The numbers of the customers met, in the order in which they are met. -/
def Members.ids (members : Members) : List Int := members.customers.map Customer.id

theorem Ending.failure?_eq_none_iff {ending : Ending} :
    ending.failure? = none ↔ ending = .complete := by
  cases ending <;> simp [Ending.failure?]

/-- All customers are streamed, or those before the first of whom no snapshot can be taken. -/
theorem recordsFrom_taken (ending : Ending) (customers : List Customer) :
    (∀ member ∈ (recordsFrom ending customers).found,
      snapshot member.customer = .ok member.profile) ∧
    (((recordsFrom ending customers).customers = customers ∧
        (recordsFrom ending customers).failure = ending.failure?) ∨
      ∃ customer after, customer.profile? = none ∧
        customers = (recordsFrom ending customers).customers ++ customer :: after ∧
        (recordsFrom ending customers).failure = some .unreadableTags) := by
  induction customers with
  | nil => exact ⟨by simp [recordsFrom], .inl ⟨rfl, rfl⟩⟩
  | cons customer rest ih =>
    cases here : customer.profile? with
    | none =>
      have untaken : snapshot customer = .error .unreadableTags := by rw [snapshot, here]
      rw [recordsFrom, untaken]
      exact ⟨by simp, .inr ⟨customer, rest, here, rfl, rfl⟩⟩
    | some profile =>
      have taken : snapshot customer = .ok profile := by rw [snapshot, here]
      rw [recordsFrom, taken]
      dsimp only
      rw [List.forall_mem_cons]
      obtain ⟨snapshots, ⟨all, ended⟩ | ⟨culprit, after, untaken, split, failed⟩⟩ := ih
      · exact ⟨⟨taken, snapshots⟩, .inl ⟨congrArg (customer :: ·) all, ended⟩⟩
      · exact ⟨⟨taken, snapshots⟩, .inr ⟨culprit, after, untaken, congrArg (customer :: ·) split,
          failed⟩⟩

theorem recordsFrom_prefix (ending : Ending) (customers : List Customer) :
    (recordsFrom ending customers).customers <+: customers := by
  obtain ⟨-, ⟨all, -⟩ | ⟨customer, after, -, split, -⟩⟩ := recordsFrom_taken ending customers
  · exact ⟨[], by rw [all, List.append_nil]⟩
  · exact ⟨customer :: after, split.symm⟩

/-- The pages that are asked for from the first on. -/
def pagesOf (size : Int) (tables : List (Table Customer)) : List (List Customer) :=
  pagesFrom size 0 tables

/-- What a stream hands out while the table goes through states, one for each page. -/
structure FollowsChanges (size : Int) (tables : List (Table Customer)) (streamed : Members) :
    Prop where
  /-- The customers of the pages, up to where the stream ends. -/
  paged : streamed.customers <+: (pagesOf size tables).flatten
  /-- A page has rows of the table at its time. -/
  stored : ArePages (pagesOf size tables) (tables.take (pagesOf size tables).length)
  snapshots : ∀ member ∈ streamed.found, snapshot member.customer = .ok member.profile
  /-- The numbers ascend, so none comes twice. -/
  ascending : streamed.ids.Pairwise (· < ·)
  once : streamed.failure = none →
    ∀ id, IsPresent id (tables.take (pagesOf size tables).length) → streamed.ids.count id = 1

/-- What a stream hands out of a table that does not change: all customers, or those before the first
of whom no snapshot can be taken. -/
def HandsOut (table : Table Customer) (streamed : Members) : Prop :=
  (streamed.customers = table.rows ∧ streamed.failure = none) ∨
  ∃ customer after, customer.profile? = none ∧
    table.rows = streamed.customers ++ customer :: after ∧
    streamed.failure = some .unreadableTags

theorem followsChanges_nothing (size : Int) (tables : List (Table Customer)) (failure : Failure) :
    FollowsChanges size tables ⟨[], some failure⟩ where
  paged := List.nil_prefix
  stored := pagesFrom_stored size 0 tables
  snapshots := by simp
  ascending := .nil
  once ended := by cases ended

/-- A number that is present in all states of the table is positive. -/
theorem IsPresent.positive {id : Int} (present : IsPresent id tables) (looked : tables ≠ []) :
    0 < id := by
  obtain ⟨table, among⟩ := List.exists_mem_of_ne_nil tables looked
  obtain ⟨customer, stored, rfl⟩ := present table among
  exact table.positive customer stored

theorem pagesFrom_ne_nil (size last : Int) (table : Table Customer)
    (tables : List (Table Customer)) : pagesFrom size last (table :: tables) ≠ [] := by
  rcases scanFrom_step size last table tables with
    ⟨-, paged⟩ | ⟨-, -, paged⟩ | ⟨front, final, -, -, paged⟩ <;> simp [paged]

/-- A complete scan is streamed with every number once that was there all the time. -/
theorem once_of_complete {id : Int} {members : Members}
    (all : members.customers = (scanAll size tables).customers)
    (ascending : members.ids.Pairwise (· < ·))
    (ended : (scanAll size tables).ending = .complete)
    (present : IsPresent id (tables.take (pagesOf size tables).length)) :
    members.ids.count id = 1 := by
  have positive : 0 < id := by
    cases tables with
    | nil => cases ended
    | cons table tables =>
      apply present.positive
      simp [pagesOf, pagesFrom_ne_nil]
  obtain ⟨customer, met, same⟩ := scanFrom_meets positive present ended
  have nodup : members.ids.Nodup := ascending.imp fun less => by omega
  apply List.count_eq_one_of_mem nodup
  rw [Members.ids, all]
  exact List.mem_map.mpr ⟨customer, met, same⟩

/-- A scan that is streamed follows the changes of the table. -/
theorem recordsFrom_followsChanges (size : Int) (tables : List (Table Customer)) :
    FollowsChanges size tables
      (recordsFrom (scanAll size tables).ending (scanAll size tables).customers) := by
  obtain ⟨-, sorted⟩ := scanFrom_ascending size 0 tables
  have first := recordsFrom_prefix (scanAll size tables).ending (scanAll size tables).customers
  obtain ⟨snapshots, outcome⟩ :=
    recordsFrom_taken (scanAll size tables).ending (scanAll size tables).customers
  have ascending : (recordsFrom (scanAll size tables).ending
      (scanAll size tables).customers).ids.Pairwise (· < ·) := by
    rw [Members.ids, List.pairwise_map]
    exact sorted.sublist first.sublist
  refine ⟨?_, pagesFrom_stored size 0 tables, snapshots, ascending, fun ended id present => ?_⟩
  · rw [pagesOf, ← scanFrom_pages]
    exact first
  -- A stream without a failure has handed out a complete scan.
  · rcases outcome with ⟨all, failure⟩ | ⟨customer, after, -, -, failure⟩
    · have complete := Ending.failure?_eq_none_iff.mp (failure.symm.trans ended)
      exact once_of_complete all ascending complete present
    · rw [ended] at failure
      cases failure

/-- Streaming pages that hold at least one customer neither skips nor repeats, however the table
changes between pages, and always has a number from which to go on. A table that does not change is
handed out as a whole, if a column holds the size of a page; there is no larger page. -/
theorem streamAll_exactly_once (positive : 0 < size) :
    (∀ tables, (scanAll size tables).ending ≠ .broken ∧
      FollowsChanges size tables (streamAll size tables)) ∧
    ∀ (table : Table Customer) (pages : Nat), table.size < pages →
      if fitsColumn size then HandsOut table (streamAll size (List.replicate pages table))
      else streamAll size (List.replicate pages table) = ⟨[], some .oversizedPage⟩ := by
  constructor
  · intro tables
    refine ⟨scanFrom_not_broken positive 0 tables, ?_⟩
    unfold streamAll
    split
    next => exact recordsFrom_followsChanges size tables
    next => exact followsChanges_nothing size tables .oversizedPage
  · intro table pages enough
    unfold streamAll
    split
    next =>
      dsimp only
      rw [scanAll_complete positive enough]
      obtain ⟨-, whole | ⟨customer, after, untaken, split, failed⟩⟩ :=
        recordsFrom_taken .complete table.rows
      · exact .inl whole
      · exact .inr ⟨customer, after, untaken, split, failed⟩
    next => rfl

def threeCustomers : Table Customer := Table.empty.insertAll [default, default, default]

/-- After the first page the second customer goes and a fourth comes. -/
def changing : List (Table Customer) :=
  let changed := (threeCustomers.delete 2).insert default
  [threeCustomers, changed, changed]

theorem changing_streamed :
    (0 : Int) < 2 ∧ (streamAll 2 changing).ids = [1, 2, 3, 4] ∧
    (streamAll 2 changing).failure = none ∧
    FollowsChanges 2 changing (streamAll 2 changing) ∧
    HandsOut threeCustomers (streamAll 2 (List.replicate 4 threeCustomers)) := by
  have positive : (0 : Int) < 2 := by decide
  obtain ⟨follows, still⟩ := streamAll_exactly_once positive
  have handed := still threeCustomers 4 (by decide)
  rw [if_pos (by decide)] at handed
  exact ⟨positive, rfl, rfl, (follows changing).2, handed⟩

/-- The tags of its one customer have no members. -/
def oddTags : Table Customer := Table.empty.insert { (default : Customer) with tags := .int 5 }

theorem unchanging_refused :
    (0 : Int) < 9223372036854775808 ∧ threeCustomers.size = 3 ∧
    streamAll 9223372036854775808 (List.replicate 4 threeCustomers) = ⟨[], some .oversizedPage⟩ ∧
    oddTags.size = 1 ∧
    streamAll 2 (List.replicate 2 oddTags) = ⟨[], some .unreadableTags⟩ :=
  ⟨by decide, rfl, rfl, rfl, rfl⟩

end Outreach.Audience
