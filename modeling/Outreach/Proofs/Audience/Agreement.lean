import Outreach.Proofs.Audience.Members

/-! The ways to an audience agree. Its number, the number and the sample of a preview, its members
and the answers about single customers follow from one list of customers, in which the size of a page
does not occur; and what ends one search ends the others with the same failure. -/

namespace Outreach.Audience

variable {rule : Rule} {ending : Ending} {size most : Int} {table : Table Customer}
  {store : ValueStore} {written : Value}

/-! ### Counting -/

theorem countFrom_cons (rule : Rule) (ending : Ending) (count : Nat) (customer : Customer)
    (rest : List Customer) :
    countFrom rule ending count (customer :: rest) = (do
      let holds ← verdict rule customer
      countFrom rule ending (if holds then count + 1 else count) rest) := by
  rw [countFrom, verdict]
  cases snapshot customer <;> rfl

/-- Customers who can all be judged are counted one after the other. -/
theorem countFrom_append (ending : Ending) {before : List Customer}
    (judged : ∀ customer ∈ before, ∃ answer, verdict rule customer = .ok answer)
    (count : Nat) (rest : List Customer) :
    countFrom rule ending count (before ++ rest) =
      countFrom rule ending (count + (before.filter (holds rule)).length) rest := by
  induction before generalizing count with
  | nil => rfl
  | cons customer before ih =>
    rw [List.forall_mem_cons] at judged
    obtain ⟨⟨answer, here⟩, later⟩ := judged
    rw [List.cons_append, countFrom_cons, here, List.filter_cons, holds_of_ok here]
    refine (ih later _).trans ?_
    cases answer with
    | true => simp [Nat.add_assoc, Nat.add_comm 1]
    | false => simp

/-! ### Previewing -/

/-- A preview with one more member. -/
def Preview.extend (most : Int) (preview : Preview) (id : Int) : Preview :=
  ⟨preview.count + 1,
    if preview.sample.length < most then preview.sample ++ [id] else preview.sample⟩

theorem previewFrom_cons (rule : Rule) (ending : Ending) (most : Int) (preview : Preview)
    (customer : Customer) (rest : List Customer) :
    previewFrom rule ending most preview (customer :: rest) = (do
      let holds ← verdict rule customer
      previewFrom rule ending most (if holds then preview.extend most customer.id else preview)
        rest) := by
  rw [previewFrom, verdict]
  cases snapshot customer with
  | error failure => rfl
  | ok profile =>
    dsimp only [bind, Except.bind]
    cases judge rule profile with
    | error failure => rfl
    | ok answer => cases answer <;> rfl

/-- The sample takes the first members, as many as there is room for. -/
theorem extend_take (most : Int) (preview : Preview) (id : Int) (ids : List Int) :
    (preview.extend most id).sample ++
        ids.take (most - (preview.extend most id).sample.length).toNat =
      preview.sample ++ (id :: ids).take (most - preview.sample.length).toNat := by
  unfold Preview.extend
  dsimp only
  by_cases room : (preview.sample.length : Int) < most
  · have one : (most - preview.sample.length).toNat =
        (most - (preview.sample ++ [id]).length).toNat + 1 := by
      rw [List.length_append, List.length_singleton]
      omega
    rw [if_pos room, one, List.take_succ_cons, List.append_assoc]
    rfl
  -- A full sample stays as it is, whoever follows.
  · have full : (most - preview.sample.length).toNat = 0 := by omega
    rw [if_neg room, full, List.take_zero, List.take_zero]

/-- Customers who can all be judged are previewed one after the other. -/
theorem previewFrom_append (ending : Ending) (most : Int) {before : List Customer}
    (judged : ∀ customer ∈ before, ∃ answer, verdict rule customer = .ok answer)
    (preview : Preview) (rest : List Customer) :
    previewFrom rule ending most preview (before ++ rest) =
      previewFrom rule ending most
        ⟨preview.count + (before.filter (holds rule)).length,
          preview.sample ++ ((before.filter (holds rule)).map Customer.id).take
            (most - preview.sample.length).toNat⟩ rest := by
  induction before generalizing preview with
  | nil => simp
  | cons customer before ih =>
    rw [List.forall_mem_cons] at judged
    obtain ⟨⟨answer, here⟩, later⟩ := judged
    rw [List.cons_append, previewFrom_cons, here, List.filter_cons, holds_of_ok here]
    refine (ih later _).trans ?_
    cases answer with
    | true =>
      simp only [if_true, List.map_cons, List.length_cons]
      rw [extend_take]
      simp only [Preview.extend]
      rw [Nat.add_assoc, Nat.add_comm 1]
    | false => rfl

/-! ### A search that is given up -/

/-- Who stops among customers who can be judged meets nothing but members. -/
theorem membersFrom_stops {before : List Customer}
    (judged : ∀ customer ∈ before, ∃ answer, verdict rule customer = .ok answer)
    (rest : List Customer) {enough : Nat → Bool} {found last : Nat} (stops : enough last)
    (ahead : found < last) (within : last ≤ found + (before.filter (holds rule)).length) :
    (membersFrom rule ending enough found (before ++ rest)).failure = none ∧
    (membersFrom rule ending enough found (before ++ rest)).found.map Member.customer <+:
      before.filter (holds rule) := by
  induction before generalizing found with
  | nil =>
    simp only [List.filter_nil, List.length_nil] at within
    omega
  | cons customer before ih =>
    rw [List.forall_mem_cons] at judged
    obtain ⟨⟨answer, here⟩, later⟩ := judged
    obtain ⟨member, isSnapshot, step⟩ := membersFrom_cons here (before ++ rest)
    rw [List.filter_cons, holds_of_ok here] at within ⊢
    rw [List.cons_append, step]
    cases answer with
    | false => exact ih later ahead within
    | true =>
      simp only [if_true, List.length_cons] at within ⊢
      -- The consumer may have enough already; if not, the member where it stops is still ahead.
      by_cases now : enough (found + 1)
      · rw [if_pos now]
        exact ⟨rfl, by simp [isSnapshot.1]⟩
      · have further : found + 1 < last := by
          have : last ≠ found + 1 := fun same => now (same ▸ stops)
          omega
        obtain ⟨ended, first⟩ := ih later further (by omega)
        rw [if_neg now]
        refine ⟨ended, ?_⟩
        rw [List.map_cons, isSnapshot.1]
        exact (List.prefix_cons_inj customer).mpr first

/-! ### All ways at once -/

/-- Those customers about whom the answer is that they belong to the audience. -/
def matching (store : ValueStore) (written : Value) (customers : List Customer) : List Customer :=
  customers.filter fun customer => (includes store written customer).toOption.getD false

theorem matching_eq (read : ruleOf store written = .ok rule) (customers : List Customer) :
    matching store written customers = customers.filter (holds rule) := by
  unfold matching
  congr 1
  funext customer
  rw [includes_eq read, holds]

/-- Every way to the audience comes to the same customers. -/
structure Agree (size most : Int) (table : Table Customer) (store : ValueStore) (written : Value)
    (audience : List Customer) : Prop where
  counted : count size table store written = .ok audience.length
  previewed : preview size table store written most =
    .ok ⟨audience.length, (audience.map Customer.id).take (min most audience.length).toNat⟩
  met : (members size table store written unlimited).customers = audience
  ended : (members size table store written unlimited).failure = none
  ascending : (audience.map Customer.id).Pairwise (· < ·)

/-- Every way to the audience that is gone to its end comes to the same failure, after some members.
Who stops at one of these does not see it. -/
structure FailAlike (size most : Int) (table : Table Customer) (store : ValueStore)
    (written : Value) (before : List Customer) (failure : Failure) : Prop where
  counted : count size table store written = .error failure
  previewed : preview size table store written most = .error failure
  met : (members size table store written unlimited).customers = before
  failed : (members size table store written unlimited).failure = some failure
  unseen : ∀ enough last, enough last → 0 < last → last ≤ before.length →
    (members size table store written enough).failure = none ∧
    (members size table store written enough).customers <+: before

theorem count_eq (paged : IsPageSize size) (read : ruleOf store written = .ok rule) :
    count size table store written = countFrom rule .complete 0 table.rows := by
  rw [count, read, customersOf_eq paged]
  rfl

theorem preview_eq (paged : IsPageSize size) (read : ruleOf store written = .ok rule) :
    preview size table store written most =
      previewFrom rule .complete most ⟨0, []⟩ table.rows := by
  rw [preview, read, customersOf_eq paged]
  rfl

theorem agree_of_judged (paged : IsPageSize size) (read : ruleOf store written = .ok rule)
    (judged : ∀ customer ∈ table.rows, ∃ answer, verdict rule customer = .ok answer) :
    Agree size most table store written (table.rows.filter (holds rule)) where
  counted := by
    have step := countFrom_append .complete judged 0 []
    rw [List.append_nil, Nat.zero_add] at step
    rw [count_eq paged read, step, countFrom]
    rfl
  previewed := by
    have step := previewFrom_append .complete most judged ⟨0, []⟩ []
    rw [List.append_nil, List.nil_append, Nat.zero_add] at step
    have room : ((table.rows.filter (holds rule)).map Customer.id).take (most - 0).toNat =
        ((table.rows.filter (holds rule)).map Customer.id).take
          (min most (table.rows.filter (holds rule)).length).toNat := by
      rw [List.take_eq_take_iff, List.length_map]
      omega
    rw [preview_eq paged read, step, previewFrom, ← room]
    rfl
  met := customers_eq (members_complete paged read judged).1
  ended := (members_complete paged read judged).2
  ascending := List.pairwise_map.mpr (table.ascending.sublist List.filter_sublist)

/-- Who ends a count with a number was at the end of the scan. -/
theorem countFrom_ended {count total : Nat} {customers : List Customer}
    (done : countFrom rule ending count customers = .ok total) : ending.failure? = none := by
  induction customers generalizing count with
  | nil =>
    unfold countFrom at done
    cases ended : ending.failure? with
    | none => rfl
    | some failure =>
      rw [ended] at done
      cases done
  | cons customer rest ih =>
    rw [countFrom_cons] at done
    obtain ⟨answer, -, done⟩ := bind_eq_ok_iff.mp done
    exact ih done

theorem failAlike_of_refused (paged : IsPageSize size) (read : ruleOf store written = .ok rule)
    {before after : List Customer} {customer : Customer} {failure : Failure}
    (split : table.rows = before ++ customer :: after)
    (judged : ∀ earlier ∈ before, ∃ answer, verdict rule earlier = .ok answer)
    (refused : verdict rule customer = .error failure) :
    FailAlike size most table store written (before.filter (holds rule)) failure where
  counted := by
    rw [count_eq paged read, split, countFrom_append .complete judged, countFrom_cons, refused]
    rfl
  previewed := by
    rw [preview_eq paged read, split, previewFrom_append .complete most judged, previewFrom_cons,
      refused]
    rfl
  met := customers_eq (members_failed paged read split judged refused).1
  failed := (members_failed paged read split judged refused).2
  unseen enough last stops ahead within := by
    rw [members_eq paged read, split]
    exact membersFrom_stops judged (customer :: after) stops ahead (by omega)

/-- What was counted is the number of those who belong to the audience, out of customers who could
all be judged. -/
theorem judged_of_count {total : Nat} (done : count size table store written = .ok total) :
    (∀ customer ∈ table.rows, ∃ answer, includes store written customer = .ok answer) ∧
      total = (matching store written table.rows).length := by
  obtain ⟨rule, read, rest⟩ := bind_eq_ok_iff.mp done
  obtain ⟨scanned, pages, rest⟩ := bind_eq_ok_iff.mp rest
  have paged : IsPageSize size := by
    unfold customersOf at pages
    split at pages
    next fits =>
      cases pages
      have ended := countFrom_ended rest
      refine ⟨positive_of_complete (?_ : (scan size table).ending = .complete), fits⟩
      cases outcome : (scan size table).ending with
      | complete => rfl
      | broken | unfinished =>
        rw [outcome] at ended
        cases ended
    next => cases pages
  rcases judged_or_first_failure rule table.rows with
    judged | ⟨before, customer, after, failure, split, judged, refused⟩
  · refine ⟨fun customer member => ?_, ?_⟩
    · rw [includes_eq read]
      exact judged customer member
    · have counted := (agree_of_judged paged read judged : Agree size 0 table store written _).counted
      rw [matching_eq read]
      exact Except.ok.inj (done.symm.trans counted)
  · have failed := (failAlike_of_refused paged read split judged refused :
      FailAlike size 0 table store written _ failure).counted
    cases done.symm.trans failed

/-- Where no customer is looked at, the searches fail alike. -/
theorem failAlike_of_early {failure : Failure}
    (counted : count size table store written = .error failure)
    (previewed : preview size table store written most = .error failure)
    (met : ∀ enough, members size table store written enough = ⟨[], some failure⟩) :
    FailAlike size most table store written [] failure where
  counted := counted
  previewed := previewed
  met := by rw [met]; rfl
  failed := by rw [met]
  unseen enough last _ ahead within := by
    rw [List.length_nil] at within
    omega

theorem failAlike_of_unread {failure : Failure} (unread : ruleOf store written = .error failure) :
    FailAlike size most table store written [] failure := by
  apply failAlike_of_early
  · rw [count, unread]
    rfl
  · rw [preview, unread]
    rfl
  · intro enough
    rw [members, unread]

theorem failAlike_of_oversized (read : ruleOf store written = .ok rule)
    (large : ¬fitsColumn size) : FailAlike size most table store written [] .oversizedPage := by
  have none : customersOf size table = .error .oversizedPage := by rw [customersOf, if_neg large]
  apply failAlike_of_early
  · rw [count, read, none]
    rfl
  · rw [preview, read, none]
    rfl
  · intro enough
    rw [members, read, none]

/-- A number, a preview, the members and the answers about single customers agree, whatever the size
of a page, and when one search fails the others do with the same failure: that of the rule, or of the
first customer who cannot be judged. -/
theorem searches_agree (positive : 0 < size) (table : Table Customer) (store : ValueStore)
    (written : Value) (most : Int) :
    (∀ failure, ruleOf store written = .error failure →
      FailAlike size most table store written [] failure) ∧
    ∀ rule, ruleOf store written = .ok rule →
      if fitsColumn size then
        ((∀ customer ∈ table.rows, ∃ answer, includes store written customer = .ok answer) ∧
          Agree size most table store written (matching store written table.rows)) ∨
        ∃ before customer after failure, table.rows = before ++ customer :: after ∧
          (∀ earlier ∈ before, ∃ answer, includes store written earlier = .ok answer) ∧
          includes store written customer = .error failure ∧
          FailAlike size most table store written (matching store written before) failure
      else FailAlike size most table store written [] .oversizedPage := by
  refine ⟨fun failure unread => failAlike_of_unread unread, fun rule read => ?_⟩
  split
  next fits =>
    simp only [includes_eq read, matching_eq read]
    rcases judged_or_first_failure rule table.rows with
      judged | ⟨before, customer, after, failure, split, judged, refused⟩
    · exact .inl ⟨judged, agree_of_judged ⟨positive, fits⟩ read judged⟩
    · exact .inr ⟨before, customer, after, failure, split, judged, refused,
        failAlike_of_refused ⟨positive, fits⟩ read split judged refused⟩
  next large => exact failAlike_of_oversized read large

def readers : Table Customer := Table.empty.insertAll [
  { (default : Customer) with name := "Ada" }, { (default : Customer) with name := "Two" },
  { (default : Customer) with name := "Grace" }]

def withLetterA : Value := .dict [
  (.text "field", .text "name"), (.text "operator", .text "contains"), (.text "value", .text "a")]

theorem readers_agree :
    (0 : Int) < 2 ∧ count 2 readers [] withLetterA = .ok 2 ∧
    preview 2 readers [] withLetterA 1 = .ok ⟨2, [1]⟩ ∧
    Agree 2 1 readers [] withLetterA (matching [] withLetterA readers.rows) := by
  have positive : (0 : Int) < 2 := by decide
  have counted : count 2 readers [] withLetterA = .ok 2 := rfl
  have read : ruleOf [] withLetterA = .ok (.leaf (.word "name") .contains (.text "a")) := rfl
  have searches := (searches_agree positive readers [] withLetterA 1).2 _ read
  rw [if_pos (by decide)] at searches
  rcases searches with ⟨-, agree⟩ | ⟨_, _, _, failure, -, -, -, fails⟩
  · exact ⟨positive, counted, rfl, agree⟩
  · rw [fails.counted] at counted
    cases counted

/-- About each customer there is an answer, and yet no count. -/
theorem largePage_uncounted :
    (0 : Int) < 9223372036854775808 ∧
    readers.rows.map (includes [] withLetterA) = [.ok true, .ok false, .ok true] ∧
    count 9223372036854775808 readers [] withLetterA = .error .oversizedPage :=
  ⟨by decide, rfl, rfl⟩

end Outreach.Audience
