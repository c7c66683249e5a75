import Mathlib.Data.String.Basic
import Outreach.Proofs.Customer.Shown
import Outreach.Proofs.Number.Compared
import Outreach.Proofs.Store.Listing

/-! Customers in the order of a column. Each column has values of an order of its own, spends that
of their exact values; customers who are level in the column stand in the order of their numbers. -/

namespace Outreach

open Schema in
/-- Only customers whose spends are at zero or above are shown. -/
theorem Customer.isNonnegative_of_view {customer : Customer} {view : CustomerView}
    (shown : customer.view? = some view) : customer.totalSpend.isNonnegative := by
  obtain ⟨details, isRead⟩ := isRead_of_view shown
  have held : Value.lookup (customer.columns.map fun field => (.text field.1, field.2))
      "total_spend" = some (.float customer.totalSpend) := by
    rw [lookup_fields]
    rfl
  obtain ⟨spend, accepted⟩ := permitted_accepted isRead.totalSpend held
  obtain ⟨number, read, kept⟩ := Checked.andThen_eq_accepted_iff.mp accepted
  cases read
  split at kept
  next nonnegative => exact nonnegative
  next => cases kept

namespace Directory

/-- The value of one customer in a column is below that of another. -/
def SortColumn.IsBelow (column : SortColumn) (a b : Customer) : Prop :=
  match column with
  | createdAt => a.createdAt.IsBefore b.createdAt
  | name => a.name < b.name
  | totalSpend => a.totalSpend.magnitude < b.totalSpend.magnitude
  | visits => a.visits < b.visits

namespace SortColumn

variable {column : SortColumn} {a b c : Customer}

theorem not_isBelow_trans (first : ¬ column.IsBelow b a) (second : ¬ column.IsBelow c b) :
    ¬ column.IsBelow c a := by
  cases column with
  | createdAt =>
    simp only [IsBelow, ← Stamp.rank_lt_iff] at first second ⊢
    omega
  | name | totalSpend | visits =>
    exact not_lt.mpr ((not_lt.mp first).trans (not_lt.mp second))

theorem not_isBelow_either (column : SortColumn) (a b : Customer) :
    ¬ column.IsBelow b a ∨ ¬ column.IsBelow a b := by
  by_contra both
  obtain ⟨first, second⟩ := not_or.mp both
  cases column with
  | createdAt =>
    simp only [IsBelow, ← Stamp.rank_lt_iff] at first second
    omega
  | name | totalSpend | visits => exact lt_asymm (not_not.mp first) (not_not.mp second)

/-- A column ascends as its values do. -/
theorem ascends_iff (left : a.totalSpend.isNonnegative) (right : b.totalSpend.isNonnegative) :
    column.ascends a b ↔ ¬ column.IsBelow b a := by
  cases column with
  | createdAt =>
    exact decide_eq_true_iff.trans (not_lt.symm.trans (not_congr Stamp.rank_lt_iff))
  | name => exact decide_eq_true_iff.trans not_lt.symm
  | totalSpend => exact (Binary64.atMost_iff left right).trans not_lt.symm
  | visits => exact decide_eq_true_iff.trans not_lt.symm

end SortColumn

namespace SortOrder

/-- One customer's value in the column comes before another's, in the direction of the order. -/
def IsAhead (order : SortOrder) (a b : Customer) : Prop :=
  if order.descending then order.column.IsBelow b a else order.column.IsBelow a b

/-- One customer comes before another: by the column, or under a lower number where the column
leaves it open. -/
def Precedes (order : SortOrder) (a b : Customer) : Prop :=
  order.IsAhead a b ∨ ¬ order.IsAhead b a ∧ a.id < b.id

variable {order : SortOrder}

theorem not_isAhead_trans {a b c : Customer} (first : ¬ order.IsAhead b a)
    (second : ¬ order.IsAhead c b) : ¬ order.IsAhead c a := by
  unfold IsAhead at first second ⊢
  by_cases down : order.descending
  · rw [if_pos down] at first second ⊢
    exact SortColumn.not_isBelow_trans second first
  · rw [if_neg down] at first second ⊢
    exact SortColumn.not_isBelow_trans first second

theorem not_isAhead_either (order : SortOrder) (a b : Customer) :
    ¬ order.IsAhead b a ∨ ¬ order.IsAhead a b := by
  unfold IsAhead
  by_cases down : order.descending
  · rw [if_pos down, if_pos down]
    exact order.column.not_isBelow_either b a
  · rw [if_neg down, if_neg down]
    exact order.column.not_isBelow_either a b

/-- The comparison by which customers are sorted keeps from behind whoever is ahead. -/
theorem compared_iff {a b : Customer} (left : a.totalSpend.isNonnegative)
    (right : b.totalSpend.isNonnegative) :
    (if order.descending then order.column.ascends b a else order.column.ascends a b) = true ↔
      ¬ order.IsAhead b a := by
  unfold IsAhead
  by_cases down : order.descending
  · rw [if_pos down, if_pos down]
    exact SortColumn.ascends_iff right left
  · rw [if_neg down, if_neg down]
    exact SortColumn.ascends_iff left right

theorem sort_perm (order : SortOrder) (customers : List Customer) :
    (order.sort customers).Perm customers := List.mergeSort_perm _ _

open Classical in
/-- Customers whose spends are numbers are sorted by the column and then by number. -/
theorem sort_pairwise {customers : List Customer}
    (spends : ∀ customer ∈ customers, customer.totalSpend.isNonnegative)
    (ascending : customers.Pairwise fun a b => a.id < b.id) :
    (order.sort customers).Pairwise order.Precedes := by
  let le (a b : Customer) : Bool := decide (¬ order.IsAhead b a)
  have sorts : order.sort customers = customers.mergeSort le := by
    refine mergeSort_congr fun a left b right => Bool.eq_iff_iff.mpr ?_
    rw [decide_eq_true_iff]
    exact compared_iff (spends a left) (spends b right)
  have trans (a b c : Customer) (first : le a b) (second : le b c) : le a c :=
    decide_eq_true (not_isAhead_trans (of_decide_eq_true first) (of_decide_eq_true second))
  have total (a b : Customer) : le a b || le b a := by
    simpa [le] using order.not_isAhead_either a b
  have sorted := pairwise_mergeSort_stable trans total (nodup_of_ascending ascending) ascending
  rw [sorts]
  refine sorted.imp fun {a b} ⟨before, level⟩ => ?_
  by_cases ahead : order.IsAhead a b
  · exact .inl ahead
  · exact .inr ⟨of_decide_eq_true before, level (decide_eq_true ahead)⟩

end SortOrder

end Directory

end Outreach
