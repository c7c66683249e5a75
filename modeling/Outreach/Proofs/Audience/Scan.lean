import Outreach.Audience.Scan
import Outreach.Proofs.Store.Table

/-! Going through the customers page by page. Whatever the table is from page to page, customers are
met in the order of their numbers, and a scan that has come to its end has met all who were there all
the time. Where the table does not change and pages hold at least one customer, it meets all of
them. -/

namespace Outreach.Audience

variable {size last : Int} {table : Table Customer} {tables : List (Table Customer)}

/-- The customers with later numbers than a given one. -/
def later (last : Int) (table : Table Customer) : List Customer :=
  table.rows.filter fun customer => last < customer.id

theorem mem_later_iff {customer : Customer} :
    customer ∈ later last table ↔ customer ∈ table.rows ∧ last < customer.id := by
  simp [later]

theorem later_ascending (last : Int) (table : Table Customer) :
    (later last table).Pairwise fun a b => a.id < b.id :=
  table.ascending.sublist List.filter_sublist

theorem later_zero (table : Table Customer) : later 0 table = table.rows := by
  apply List.filter_eq_self.mpr
  intro customer member
  have positive : 0 < customer.id := table.positive customer member
  exact decide_eq_true positive

/-- The customers after a page are those after its last customer. -/
theorem later_of_append {page rest : List Customer} {final : Customer}
    (split : later last table = page ++ final :: rest) : later final.id table = rest := by
  have ascending := later_ascending last table
  rw [split, List.pairwise_append, List.pairwise_cons] at ascending
  obtain ⟨-, ⟨after, -⟩, before⟩ := ascending
  have above : last < final.id := by
    have member : final ∈ later last table := by simp [split]
    exact (mem_later_iff.mp member).2
  have narrowed : later final.id table = (later last table).filter fun customer =>
      final.id < customer.id := by
    rw [later, later, List.filter_filter]
    apply List.filter_congr
    intro customer _
    by_cases beyond : final.id < customer.id
    · have : last < customer.id := by omega
      simp [beyond, this]
    · simp [beyond]
  have dropped : page.filter (fun customer => final.id < customer.id) = [] := by
    apply List.filter_eq_nil_iff.mpr
    intro customer member
    have := before customer member final (List.mem_cons_self ..)
    simp only [decide_eq_true_eq]
    omega
  have kept : rest.filter (fun customer => final.id < customer.id) = rest := by
    apply List.filter_eq_self.mpr
    intro customer member
    exact decide_eq_true (after customer member)
  rw [narrowed, split, List.filter_append, dropped, List.filter_cons, kept]
  simp

/-- The pages that a scan asks for, each of the table at its time. -/
def pagesFrom (size : Int) : (last : Int) → List (Table Customer) → List (List Customer)
  | _, [] => []
  | last, table :: later =>
      let page := pageAfter size last table
      if page.length < size then [page]
      else match page.getLast? with
        | none => [page]
        | some final => page :: pagesFrom size final.id later

/-- What one page does: it holds all who are left and ends the scan, or it has no last customer, or
the scan goes on after the last one. -/
theorem scanFrom_step (size last : Int) (table : Table Customer) (tables : List (Table Customer)) :
    (scanFrom size last (table :: tables) = ⟨later last table, .complete⟩ ∧
      pagesFrom size last (table :: tables) = [later last table]) ∨
    (size ≤ 0 ∧ scanFrom size last (table :: tables) = ⟨[], .broken⟩ ∧
      pagesFrom size last (table :: tables) = [[]]) ∨
    ∃ front final, later last table = front ++ final :: later final.id table ∧
      scanFrom size last (table :: tables) =
        ⟨front ++ final :: (scanFrom size final.id tables).customers,
          (scanFrom size final.id tables).ending⟩ ∧
      pagesFrom size last (table :: tables) = (front ++ [final]) :: pagesFrom size final.id tables := by
  obtain ⟨rest, whole⟩ : pageAfter size last table <+: later last table := by
    unfold pageAfter
    split
    next => exact List.prefix_refl _
    next => exact List.take_prefix ..
  rw [scanFrom, pagesFrom]
  dsimp only
  by_cases short : (pageAfter size last table).length < size
  · have all : pageAfter size last table = later last table := by
      rw [pageAfter, if_neg (by omega)] at short ⊢
      apply List.take_of_length_le
      rw [List.length_take] at short
      omega
    rw [if_pos short, if_pos short, all]
    exact .inl ⟨rfl, rfl⟩
  · rw [if_neg short, if_neg short]
    cases isLast : (pageAfter size last table).getLast? with
    | none =>
      rw [List.getLast?_eq_none_iff.mp isLast] at short ⊢
      rw [List.length_nil] at short
      exact .inr (.inl ⟨by omega, rfl, rfl⟩)
    | some final =>
      obtain ⟨front, page⟩ := List.getLast?_eq_some_iff.mp isLast
      have split : later last table = front ++ final :: rest := by
        rw [← whole, page, List.append_assoc]
        rfl
      refine .inr (.inr ⟨front, final, ?_, ?_, ?_⟩)
      · rw [later_of_append split]
        exact split
      · dsimp only
        rw [page, List.append_assoc]
        rfl
      · dsimp only
        rw [page]

/-! ### Tables that change -/

/-- Whatever the table is from page to page, a scan meets ascending numbers after the last one
seen. -/
theorem scanFrom_ascending (size last : Int) (tables : List (Table Customer)) :
    (∀ customer ∈ (scanFrom size last tables).customers, last < customer.id) ∧
    (scanFrom size last tables).customers.Pairwise fun a b => a.id < b.id := by
  induction tables generalizing last with
  | nil => simp [scanFrom]
  | cons table tables ih =>
    rcases scanFrom_step size last table tables with
      ⟨step, -⟩ | ⟨-, step, -⟩ | ⟨front, final, split, step, -⟩ <;> rw [step]
    · exact ⟨fun customer member => (mem_later_iff.mp member).2, later_ascending last table⟩
    · simp
    -- The rest comes after the last customer of the page, who comes after the others on it.
    · obtain ⟨above, sorted⟩ := ih final.id
      have ascending := later_ascending last table
      rw [split, List.pairwise_append, List.pairwise_cons] at ascending
      obtain ⟨fronted, -, ordered⟩ := ascending
      have toFinal : ∀ customer ∈ front, customer.id < final.id :=
        fun customer member => ordered customer member final (List.mem_cons_self ..)
      have beyond : ∀ customer ∈ front ++ final :: later final.id table, last < customer.id :=
        fun customer member => (mem_later_iff.mp (split ▸ member)).2
      rw [List.forall_mem_append, List.forall_mem_cons] at beyond
      dsimp only
      rw [List.forall_mem_append, List.forall_mem_cons, List.pairwise_append, List.pairwise_cons]
      refine ⟨⟨beyond.1, beyond.2.1, fun customer met =>
        Int.lt_trans beyond.2.1 (above customer met)⟩, fronted, ⟨above, sorted⟩, ?_⟩
      intro earlier member
      rw [List.forall_mem_cons]
      exact ⟨toFinal earlier member, fun customer met =>
        Int.lt_trans (toFinal earlier member) (above customer met)⟩

/-- Pages one after the other, each with rows of the table at its time. -/
abbrev ArePages : List (List Customer) → List (Table Customer) → Prop :=
  List.Forall₂ fun page table => ∀ customer ∈ page, customer ∈ table.rows

/-- A number is present in every one of some states of a table. -/
def IsPresent (id : Int) (tables : List (Table Customer)) : Prop :=
  ∀ table ∈ tables, ∃ customer ∈ table.rows, customer.id = id

/-- A scan meets the customers of its pages. -/
theorem scanFrom_pages (size last : Int) (tables : List (Table Customer)) :
    (scanFrom size last tables).customers = (pagesFrom size last tables).flatten := by
  induction tables generalizing last with
  | nil => rfl
  | cons table tables ih =>
    rcases scanFrom_step size last table tables with
      ⟨step, paged⟩ | ⟨-, step, paged⟩ | ⟨front, final, -, step, paged⟩ <;> rw [step, paged]
    · simp
    · rfl
    · rw [List.flatten_cons, List.append_assoc, ← ih]
      rfl

/-- A page has rows of the table at its time. -/
theorem pagesFrom_stored (size last : Int) (tables : List (Table Customer)) :
    ArePages (pagesFrom size last tables) (tables.take (pagesFrom size last tables).length) := by
  induction tables generalizing last with
  | nil => exact .nil
  | cons table tables ih =>
    have stored : ∀ customer ∈ later last table, customer ∈ table.rows :=
      fun customer member => (mem_later_iff.mp member).1
    rcases scanFrom_step size last table tables with
      ⟨-, paged⟩ | ⟨-, -, paged⟩ | ⟨front, final, split, -, paged⟩ <;> rw [paged]
    · exact .cons stored .nil
    · exact .cons (by simp) .nil
    · refine .cons (fun customer member => stored customer ?_) (ih final.id)
      rw [split, List.append_cons]
      exact List.mem_append_left _ member

/-- A scan that has come to its end has met every number that was present in all states of the table
that were looked at. -/
theorem scanFrom_meets {id : Int} (ahead : last < id)
    (present : IsPresent id (tables.take (pagesFrom size last tables).length))
    (ended : (scanFrom size last tables).ending = .complete) :
    ∃ customer ∈ (scanFrom size last tables).customers, customer.id = id := by
  induction tables generalizing last with
  | nil => cases ended
  | cons table tables ih =>
    rcases scanFrom_step size last table tables with
      ⟨step, paged⟩ | ⟨-, step, paged⟩ | ⟨front, final, split, step, paged⟩ <;>
      rw [step] at ended ⊢ <;> rw [paged, List.length_cons, List.take_succ_cons] at present
    · obtain ⟨customer, stored, rfl⟩ := present table (List.mem_cons_self ..)
      exact ⟨customer, mem_later_iff.mpr ⟨stored, ahead⟩, rfl⟩
    · cases ended
    · obtain ⟨customer, stored, rfl⟩ := present table (List.mem_cons_self ..)
      have left : customer ∈ later last table := mem_later_iff.mpr ⟨stored, ahead⟩
      rw [split, List.mem_append, List.mem_cons] at left
      rcases left with before | rfl | after
      · exact ⟨customer, List.mem_append_left _ before, rfl⟩
      · exact ⟨customer, List.mem_append_right _ (List.mem_cons_self ..), rfl⟩
      -- Who is not on the page comes after its last customer, and the induction goes on from there.
      · have still : IsPresent customer.id
            (tables.take (pagesFrom size final.id tables).length) :=
          fun state among => present state (List.mem_cons_of_mem _ among)
        obtain ⟨met, among, same⟩ := ih (mem_later_iff.mp after).2 still ended
        exact ⟨met, List.mem_append_right _ (List.mem_cons_of_mem _ among), same⟩

/-- Pages that hold at least one customer have a last one from which to go on. -/
theorem scanFrom_not_broken (positive : 0 < size) (last : Int) (tables : List (Table Customer)) :
    (scanFrom size last tables).ending ≠ .broken := by
  induction tables generalizing last with
  | nil => simp [scanFrom]
  | cons table tables ih =>
    rcases scanFrom_step size last table tables with
      ⟨step, -⟩ | ⟨empty, -⟩ | ⟨front, final, -, step, -⟩
    · simp [step]
    · omega
    · rw [step]
      exact ih final.id

/-- A page that is not full has room for one customer at least. -/
theorem positive_of_complete {tables : List (Table Customer)}
    (ended : (scanFrom size last tables).ending = .complete) : 0 < size := by
  induction tables generalizing last with
  | nil => cases ended
  | cons table tables ih =>
    unfold scanFrom at ended
    dsimp only at ended
    split at ended
    next short => omega
    next =>
      split at ended
      next => cases ended
      next => exact ih ended

/-! ### A table that does not change -/

/-- With pages that hold at least one customer, a scan that may ask for one page more than there are
customers left meets all of them. -/
theorem scanFrom_complete (positive : 0 < size) {pages : Nat}
    (enough : (later last table).length < pages) :
    scanFrom size last (List.replicate pages table) = ⟨later last table, .complete⟩ := by
  induction pages generalizing last with
  | zero => omega
  | succ pages ih =>
    rw [List.replicate_succ]
    rcases scanFrom_step size last table (List.replicate pages table) with
      ⟨step, -⟩ | ⟨empty, -⟩ | ⟨front, final, split, step, -⟩
    · exact step
    · omega
    · have fewer : (later final.id table).length < pages := by
        rw [split, List.length_append, List.length_cons] at enough
        omega
      rw [step, ih fewer, split]

theorem scanAll_complete (positive : 0 < size) {pages : Nat} (enough : table.size < pages) :
    scanAll size (List.replicate pages table) = ⟨table.rows, .complete⟩ := by
  have left : (later 0 table).length < pages := by
    rw [later_zero]
    exact enough
  rw [scanAll, scanFrom_complete positive left, later_zero]

theorem scan_complete (positive : 0 < size) (table : Table Customer) :
    scan size table = ⟨table.rows, .complete⟩ := scanAll_complete positive (by omega)

end Outreach.Audience
