import Mathlib.Data.List.Forall2
import Mathlib.Data.List.Nodup
import Outreach.Proofs.Number.Quotient
import Outreach.Proofs.Store.Table
import Outreach.Store.Listing

/-! Listings and their pages. Sorting leaves rows that are level in the order in which they were, so
that an order of the rows by their numbers settles what the sorted column leaves open. The pages of
a listing, one after the other, are the listing. -/

namespace Outreach

/-! ### Sorting -/

section
variable {ρ : Type}

theorem pair_apart {a b : ρ} {rows : List ρ} (apart : rows.Nodup) (first : [a, b].Sublist rows) :
    ¬ [b, a].Sublist rows := by
  intro second
  induction rows with
  | nil => cases first
  | cons row rest ih =>
    obtain ⟨fresh, later⟩ := List.nodup_cons.mp apart
    cases first with
    | cons _ within =>
      cases second with
      | cons _ also => exact ih later within also
      | cons_cons => exact fresh (within.subset (by simp))
    | cons_cons _ within =>
      cases second with
      | cons _ also => exact fresh (also.subset (by simp))
      | cons_cons => exact fresh (within.subset (by simp))

theorem pair_either {a b : ρ} {rows : List ρ} (left : a ∈ rows) (right : b ∈ rows)
    (differ : a ≠ b) : [a, b].Sublist rows ∨ [b, a].Sublist rows := by
  have symmetric : Std.Symm fun x y => [x, y].Sublist rows ∨ [y, x].Sublist rows :=
    ⟨fun _ _ => Or.symm⟩
  have pairs : rows.Pairwise fun x y => [x, y].Sublist rows ∨ [y, x].Sublist rows :=
    List.pairwise_iff_forall_sublist.mpr .inl
  exact pairs.forall left right differ

variable {le : ρ → ρ → Bool} {before : ρ → ρ → Prop} {rows : List ρ}

/-- Sorting puts what is less first, and leaves what is level in the order in which it was. -/
theorem pairwise_mergeSort_stable (trans : ∀ a b c, le a b → le b c → le a c)
    (total : ∀ a b, le a b || le b a) (apart : rows.Nodup) (ordered : rows.Pairwise before) :
    (rows.mergeSort le).Pairwise fun a b => le a b ∧ (le b a → before a b) := by
  have sorted : (rows.mergeSort le).Pairwise fun a b => le a b :=
    List.pairwise_mergeSort trans total rows
  have permuted := List.mergeSort_perm rows le
  have sortedApart : (rows.mergeSort le).Nodup := permuted.nodup_iff.mpr apart
  refine List.pairwise_iff_forall_sublist.mpr fun {a b} pair =>
    ⟨List.pairwise_iff_forall_sublist.mp sorted pair, fun level => ?_⟩
  have differ : a ≠ b := by simpa using sortedApart.sublist pair
  have left : a ∈ rows := permuted.mem_iff.mp (pair.subset (by simp))
  have right : b ∈ rows := permuted.mem_iff.mp (pair.subset (by simp))
  rcases pair_either left right differ with here | turned
  · exact List.pairwise_iff_forall_sublist.mp ordered here
  · have also := List.pair_sublist_mergeSort trans total level turned
    exact absurd also (pair_apart sortedApart pair)

/-- What sorting does hangs on how it compares the rows that there are. -/
theorem mergeSort_congr {other : ρ → ρ → Bool}
    (same : ∀ a ∈ rows, ∀ b ∈ rows, le a b = other a b) :
    rows.mergeSort le = rows.mergeSort other := by
  have mapped : (rows.mergeSort le).map id = (rows.map id).mergeSort other :=
    List.map_mergeSort same
  rwa [List.map_id, List.map_id] at mapped

end

/-! ### Times -/

namespace Stamp

/-- One time is before another as a table compares them: by the second; within a second those that
the database set come before those that were given, and those that were given go by the fraction. -/
def IsBefore (a b : Stamp) : Prop :=
  a.moment.wholeSeconds.clock < b.moment.wholeSeconds.clock ∨
    a.moment.wholeSeconds.clock = b.moment.wholeSeconds.clock ∧ b.given ∧
      (a.given → a.moment.time.microsecond < b.moment.time.microsecond)

theorem clock_eq (m : Moment) : m.clock = m.wholeSeconds.clock + m.time.microsecond := by
  simp [Moment.clock, Moment.wholeSeconds, ClockTime.sinceMidnight, Int.add_assoc]

theorem wholeSeconds_clock (m : Moment) :
    ∃ seconds : Int, m.wholeSeconds.clock = seconds * microsecondsPerSecond := by
  refine ⟨m.date.ordinal * 86400 + (m.time.hour * 3600 + m.time.minute * 60 + m.time.second), ?_⟩
  simp only [Moment.clock, Moment.wholeSeconds, ClockTime.sinceMidnight, microsecondsPerSecond,
    microsecondsPerDay]
  push_cast
  omega

theorem rank_lt_iff {a b : Stamp} : a.rank < b.rank ↔ a.IsBefore b := by
  obtain ⟨first, left⟩ := wholeSeconds_clock a.moment
  obtain ⟨second, right⟩ := wholeSeconds_clock b.moment
  have less := a.moment.time.valid.2.2.2
  have also := b.moment.time.valid.2.2.2
  unfold rank placeInSecond IsBefore
  rw [left, right]
  simp only [microsecondsPerSecond] at less also ⊢
  cases a.given <;> cases b.given <;>
    simp only [if_true, if_false, Bool.false_eq_true, true_imp_iff, false_imp_iff, true_and,
      false_and, and_true, and_false, or_false] <;> omega

/-- Times that were given are compared by the clock. -/
theorem isBefore_iff_clock {a b : Stamp} (left : a.given) (right : b.given) :
    a.IsBefore b ↔ a.moment.clock < b.moment.clock := by
  obtain ⟨first, early⟩ := wholeSeconds_clock a.moment
  obtain ⟨second, late⟩ := wholeSeconds_clock b.moment
  have less := a.moment.time.valid.2.2.2
  have also := b.moment.time.valid.2.2.2
  unfold IsBefore
  rw [clock_eq a.moment, clock_eq b.moment, early, late]
  simp only [microsecondsPerSecond] at less also ⊢
  simp only [left, right, true_imp_iff, true_and]
  omega

end Stamp

/-! ### The newest first -/

section
variable {ρ : Type}

variable [Row ρ] {createdAt : ρ → Stamp}

theorem Table.ascending_filter (table : Table ρ) (test : ρ → Bool) :
    (table.rows.filter test).Pairwise fun a b => Row.id a < Row.id b :=
  table.ascending.sublist List.filter_sublist

theorem nodup_of_ascending {rows : List ρ}
    (ascending : rows.Pairwise fun a b => Row.id a < Row.id b) : rows.Nodup :=
  ascending.imp fun less same => absurd (same ▸ less) (Int.lt_irrefl _)

end

/-! ### Pages -/

section
variable {ρ α : Type} {view? : ρ → Option α}

/-- The windows of a list, one after the other, are the list as far as they reach. -/
theorem flatMap_windows (list : List α) (size count : Nat) :
    (List.range count).flatMap (fun n => (list.drop (n * size)).take size) =
      list.take (count * size) := by
  induction count with
  | zero => simp
  | succ count ih => rw [List.range_succ, List.flatMap_append, ih, Nat.succ_mul, List.take_add,
      List.flatMap_singleton]

theorem mapM_of_forall₂ {rows : List ρ} {views : List α}
    (shown : List.Forall₂ (fun row view => view? row = some view) rows views) :
    rows.mapM view? = some views := by
  induction shown with
  | nil => rfl
  | cons first _ ih =>
    rw [List.mapM_cons, first, ih]
    rfl

theorem mem_of_mem_ofListing {listing : List α} {request : PageRequest} {item : α}
    (member : item ∈ (Page.ofListing request listing).items) : item ∈ listing :=
  List.mem_of_mem_drop (List.mem_of_mem_take member)

theorem forall₂_views {good : α → Prop} {rows : List ρ}
    (shown : ∀ row ∈ rows, ∃ view, view? row = some view ∧ good view) :
    ∃ views, List.Forall₂ (fun row view => view? row = some view) rows views ∧
      ∀ view ∈ views, good view := by
  induction rows with
  | nil => exact ⟨[], .nil, List.forall_mem_nil _⟩
  | cons row rest ih =>
    obtain ⟨⟨view, made, first⟩, later⟩ := List.forall_mem_cons.mp shown
    obtain ⟨views, others, each⟩ := ih later
    exact ⟨view :: views, .cons made others, List.forall_mem_cons.mpr ⟨first, each⟩⟩

/-- The page of a listing, shown, is the page of what the listing shows. -/
theorem show?_ofListing {listing : List ρ} {views : List α}
    (shown : List.Forall₂ (fun row view => view? row = some view) listing views)
    (request : PageRequest) :
    (Page.ofListing request listing).show? view? = some (Page.ofListing request views) := by
  have window := List.forall₂_take request.size.toNat
    (List.forall₂_drop request.offset.toNat shown)
  unfold Page.show? Page.ofListing
  dsimp only
  rw [mapM_of_forall₂ window, shown.length_eq]
  rfl

/-- Where all rows of a listing can be shown, each of its pages is, if the number of rows before it
fits a column. -/
theorem showPage_eq {listing : List ρ} {views : List α} {request : PageRequest} (db : Database)
    (fits : fitsColumn request.offset)
    (shown : List.Forall₂ (fun row view => view? row = some view) listing views) :
    showPage db request view? listing = .ok ⟨db, some (Page.ofListing request views)⟩ := by
  have passed : ensureFits request.offset = .ok () := ensureFits_eq_ok_iff.mpr fits
  unfold showPage
  rw [passed, show?_ofListing shown]
  rfl

/-- A listing is cut into this many pages of a size, and these: each page tells how many rows there
are, each but the last is full, and one after the other they show every row once, in the order of
the listing. -/
structure IsCut (view? : ρ → Option α) (listing : List ρ) (size count : Nat)
    (pages : Nat → Page α) : Prop where
  filled : (count : Int) = ⌈(listing.length : ℚ) / size⌉
  shown : List.Forall₂ (fun row view => view? row = some view) listing
    ((List.range count).flatMap fun n => (pages n).items)
  full : ∀ n, n + 1 < count → (pages n).items.length = size
  total : ∀ n, (pages n).total = listing.length
  number : ∀ n, (pages n).number = n + 1
  size : ∀ n, (pages n).size = size

/-- The request for a page by the number of pages before it. -/
def PageRequest.after (size n : Nat) : PageRequest := ⟨n + 1, size⟩

theorem PageRequest.offset_after (size n : Nat) : (after size n).offset = (n * size : Nat) := by
  simp [offset, after]

/-- How many pages a number of rows fills. -/
def pagesFilled (rows size : Nat) : Nat := ⌈(rows : ℚ) / size⌉₊

theorem pagesFilled_bounds {rows size : Nat} (positive : 0 < size) :
    rows ≤ pagesFilled rows size * size ∧
      ∀ n, n < pagesFilled rows size → n * size < rows := by
  have wide : (0 : ℚ) < size := Nat.cast_pos.mpr positive
  constructor
  · have above := Nat.le_ceil ((rows : ℚ) / size)
    rw [div_le_iff₀ wide] at above
    exact_mod_cast above
  · intro n fewer
    have below := Nat.lt_ceil.mp fewer
    rw [lt_div_iff₀ wide] at below
    exact_mod_cast below

/-- Every listing whose rows can be shown is cut into the pages that are asked for. -/
theorem isCut_ofListing {listing : List ρ} {views : List α} {size : Nat} (positive : 0 < size)
    (shown : List.Forall₂ (fun row view => view? row = some view) listing views) :
    IsCut view? listing size (pagesFilled listing.length size)
      fun n => Page.ofListing (.after size n) views := by
  obtain ⟨covers, begins⟩ := @pagesFilled_bounds listing.length size positive
  have items (n : Nat) : (Page.ofListing (.after size n) views).items =
      (views.drop (n * size)).take size := by
    unfold Page.ofListing
    rw [PageRequest.offset_after]
    rfl
  have same := shown.length_eq
  constructor
  · exact Int.natCast_ceil_eq_ceil (by positivity)
  · simp only [items]
    rw [flatMap_windows, List.take_of_length_le (same ▸ covers)]
    exact shown
  · intro n more
    have further := begins (n + 1) more
    rw [items, List.length_take, List.length_drop]
    rw [Nat.succ_mul] at further
    omega
  · exact fun n => same.symm
  · exact fun n => rfl
  · exact fun n => rfl

end

end Outreach
