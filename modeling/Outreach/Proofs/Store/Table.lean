import Mathlib.Data.List.Forall2
import Mathlib.Data.List.Nodup
import Outreach.Proofs.Outcome

/-! Which rows a table has after a write. A number belongs to one row at most, and every write says
of each row of the new table where it comes from.

References from the rows of one table to the numbers of another. A write of the other table that
keeps its numbers keeps all references to it. -/

namespace Outreach.Table

variable {ρ : Type} [Row ρ] {table : Table ρ} {row : ρ}

/-- Ascending numbers within bounds are no more than there are numbers between the bounds. -/
theorem length_le_of_ascending {rows : List ρ} {low high : Int}
    (ascending : rows.Pairwise fun a b => Row.id a < Row.id b) (ordered : low ≤ high)
    (within : ∀ row ∈ rows, low < Row.id row ∧ Row.id row ≤ high) :
    (rows.length : Int) ≤ high - low := by
  induction rows generalizing low with
  | nil =>
    simp only [List.length_nil]
    omega
  | cons first rest ih =>
    rw [List.pairwise_cons] at ascending
    rw [List.forall_mem_cons] at within
    obtain ⟨⟨above, below⟩, others⟩ := within
    have fewer := ih ascending.2 below fun row member =>
      ⟨ascending.1 row member, (others row member).2⟩
    rw [List.length_cons]
    omega

/-- There are no more rows than numbers up to the last. -/
theorem size_le_lastId (table : Table ρ) : (table.size : Int) ≤ table.lastId := by
  have bound := length_le_of_ascending table.ascending table.lastId_nonneg fun row member =>
    ⟨table.positive row member, table.id_le_lastId member⟩
  rw [size]
  omega

/-- Two rows under one number are one row. -/
theorem eq_of_id {other : ρ} (member : row ∈ table.rows) (among : other ∈ table.rows)
    (same : Row.id row = Row.id other) : row = other := by
  have apart : (table.rows.map Row.id).Nodup :=
    List.pairwise_map.mpr (table.ascending.imp fun less => by omega)
  exact List.inj_on_of_nodup_map apart member among same

theorem find?_eq_some_iff {id : Int} :
    table.find? id = some row ↔ row ∈ table.rows ∧ Row.id row = id := by
  unfold find?
  constructor
  · intro found
    exact ⟨List.mem_of_find?_eq_some found, by simpa using List.find?_some found⟩
  · rintro ⟨member, rfl⟩
    cases found : table.rows.find? fun other => Row.id other = Row.id row with
    | none => exact absurd (List.find?_eq_none.mp found row member) (by simp)
    | some other =>
      have among := List.mem_of_find?_eq_some found
      have same : Row.id other = Row.id row := by simpa using List.find?_some found
      rw [eq_of_id among member same]

theorem get_eq_ok_iff {resource : Resource} {id : Int} :
    table.get resource id = .ok row ↔ fitsColumn id ∧ table.find? id = some row := by
  unfold get
  by_cases fits : fitsColumn id
  · cases found : table.find? id <;> simp [fits, refuse]
  · simp [fits, mishap]

theorem get_refused {resource : Resource} {id : Int} {refusal : Refusal}
    (refused : table.get resource id = .error (.refused refusal)) :
    table.find? id = none ∧ refusal = .missing resource id := by
  unfold get at refused
  split at refused
  next =>
    split at refused
    next => cases refused
    next none_found =>
      cases refused
      exact ⟨none_found, rfl⟩
  next => cases refused

theorem mem_insert_iff {new : ρ} :
    row ∈ (table.insert new).rows ↔ row ∈ table.rows ∨ row = Row.withId table.nextId new := by
  simp [insert]

/-- The rows of a replacement: the other rows as they are, and the new one where there was one with
its number. -/
theorem mem_replace_iff {new : ρ} :
    row ∈ (table.replace new).rows ↔
      (row ∈ table.rows ∧ Row.id row ≠ Row.id new) ∨
      (row = new ∧ ∃ old ∈ table.rows, Row.id old = Row.id new) := by
  simp only [replace, List.mem_map]
  constructor
  · rintro ⟨old, member, rfl⟩
    by_cases same : Row.id old = Row.id new
    · exact .inr ⟨by simp [same], old, member, same⟩
    · exact .inl ⟨by simpa [same] using member, by simp [same]⟩
  · rintro (⟨member, other⟩ | ⟨rfl, old, member, same⟩)
    · exact ⟨row, member, by simp [other]⟩
    · exact ⟨old, member, by simp [same]⟩

/-- Where a row is replaced by what becomes of it, the rows are the old ones, changed under its
number. -/
theorem rows_replace {change : ρ → ρ} (member : row ∈ table.rows)
    (same : Row.id (change row) = Row.id row) : (table.replace (change row)).rows =
      table.rows.map fun old => if Row.id old = Row.id row then change old else old := by
  refine List.map_congr_left fun old among => ?_
  rw [same]
  split
  next named => rw [eq_of_id among member named]
  next => rfl

/-- What a row and the one in its place have in common, the rows have before and after. -/
theorem map_replace {α : Type} {key : ρ → α} {new : ρ} (member : row ∈ table.rows)
    (named : Row.id new = Row.id row) (same : key new = key row) :
    (table.replace new).rows.map key = table.rows.map key := by
  have replaced : (table.replace new).rows =
      table.rows.map fun old => if Row.id old = Row.id new then new else old := rfl
  rw [replaced, List.map_map]
  refine List.map_congr_left fun old among => ?_
  rw [Function.comp_apply]
  split
  next taken =>
    rw [eq_of_id among member (taken.trans named)]
    exact same
  next => rfl

/-- Tables of the same rows are the same. -/
theorem eq_of_rows {other : Table ρ} (same : table.rows = other.rows) : table = other := by
  cases table
  cases other
  cases same
  rfl

/-- A row that replaces itself leaves the table as it is. -/
theorem replace_self (member : row ∈ table.rows) : table.replace row = table := by
  refine eq_of_rows ((List.map_congr_left fun old among => ?_).trans (List.map_id _))
  split
  next named => exact eq_of_id member among named.symm
  next => rfl

/-- A replacement leaves a row under every number. -/
theorem exists_mem_replace {new : ρ} (member : row ∈ table.rows) :
    ∃ other ∈ (table.replace new).rows, Row.id other = Row.id row := by
  by_cases taken : Row.id row = Row.id new
  · exact ⟨new, mem_replace_iff.mpr (.inr ⟨rfl, row, member, taken⟩), taken.symm⟩
  · exact ⟨row, mem_replace_iff.mpr (.inl ⟨member, taken⟩), rfl⟩

/-- What holds of all rows and of a new one, whatever its number, holds of all rows after the new
one was added. -/
theorem forall_insert {holds : ρ → Prop} {new : ρ}
    (unnumbered : ∀ n row, holds row → holds (Row.withId n row))
    (before : ∀ row ∈ table.rows, holds row) (good : holds new) :
    ∀ row ∈ (table.insert new).rows, holds row := by
  intro row member
  rcases mem_insert_iff.mp member with old | rfl
  · exact before row old
  · exact unnumbered _ new good

/-- What holds of all rows and of the new one holds of all rows after a replacement. -/
theorem forall_replace {holds : ρ → Prop} {new : ρ} (before : ∀ row ∈ table.rows, holds row)
    (good : holds new) : ∀ row ∈ (table.replace new).rows, holds row := by
  intro row member
  rcases mem_replace_iff.mp member with ⟨old, -⟩ | ⟨rfl, -⟩
  · exact before row old
  · exact good

theorem mem_deleteWhere_iff {test : ρ → Bool} :
    row ∈ (table.deleteWhere test).rows ↔ row ∈ table.rows ∧ test row = false := by
  simp [deleteWhere]

theorem mem_delete_iff {id : Int} :
    row ∈ (table.delete id).rows ↔ row ∈ table.rows ∧ Row.id row ≠ id := by
  simp [delete, mem_deleteWhere_iff]

/-- What holds of all rows holds of those that a deletion leaves. -/
theorem forall_delete {holds : ρ → Prop} (before : ∀ row ∈ table.rows, holds row) (id : Int) :
    ∀ row ∈ (table.delete id).rows, holds row :=
  fun row member => before row (mem_delete_iff.mp member).1

/-! ### Many rows at once -/

/-- Rows under the numbers that follow a number. -/
def numbered (last : Int) : List ρ → List ρ
  | [] => []
  | row :: rest => Row.withId (last + 1) row :: numbered (last + 1) rest

theorem lastId_insert (new : ρ) : (table.insert new).lastId = table.nextId := by
  simp [lastId, insert, Row.id_withId]

theorem rows_insertAll (news : List ρ) :
    (table.insertAll news).rows = table.rows ++ numbered table.lastId news := by
  induction news generalizing table with
  | nil => simp [insertAll, numbered]
  | cons new rest ih =>
    have step : table.insertAll (new :: rest) = (table.insert new).insertAll rest := rfl
    rw [step, ih, lastId_insert, numbered]
    simp [insert, nextId]

theorem exists_of_mem_numbered {last : Int} {news : List ρ} (member : row ∈ numbered last news) :
    ∃ new ∈ news, ∃ n, row = Row.withId n new := by
  induction news generalizing last with
  | nil => cases member
  | cons new rest ih =>
    rcases List.mem_cons.mp member with rfl | later
    · exact ⟨new, List.mem_cons_self .., last + 1, rfl⟩
    · obtain ⟨other, among, n, same⟩ := ih later
      exact ⟨other, List.mem_cons_of_mem _ among, n, same⟩

/-- What a row has besides its number it keeps under every number. -/
theorem map_numbered {α : Type} {f : ρ → α} (same : ∀ n row, f (Row.withId n row) = f row)
    (last : Int) (news : List ρ) : (numbered last news).map f = news.map f := by
  induction news generalizing last with
  | nil => rfl
  | cons new rest ih => rw [numbered, List.map_cons, List.map_cons, same, ih]

theorem forall₂_numbered {α : Type} {relates : α → ρ → Prop}
    (kept : ∀ n a row, relates a row → relates a (Row.withId n row)) {sources : List α}
    {news : List ρ} (related : List.Forall₂ relates sources news) (last : Int) :
    List.Forall₂ relates sources (numbered last news) := by
  induction related generalizing last with
  | nil => exact .nil
  | cons first later ih => exact .cons (kept _ _ _ first) (ih _)

/-- A row of a table to which rows were added is an old one, or a new one under some number. -/
theorem mem_insertAll {news : List ρ} (member : row ∈ (table.insertAll news).rows) :
    row ∈ table.rows ∨ ∃ new ∈ news, ∃ n, row = Row.withId n new := by
  rw [rows_insertAll, List.mem_append] at member
  exact member.imp_right exists_of_mem_numbered

/-- Rows that are added are there under some number. -/
theorem exists_mem_insertAll (table : Table ρ) {news : List ρ} {new : ρ} (member : new ∈ news) :
    ∃ n, Row.withId n new ∈ (table.insertAll news).rows := by
  induction news generalizing table with
  | nil => cases member
  | cons first rest ih =>
    rcases List.mem_cons.mp member with rfl | later
    · refine ⟨table.nextId, ?_⟩
      have step : table.insertAll (new :: rest) = (table.insert new).insertAll rest := rfl
      rw [step, rows_insertAll, List.mem_append]
      exact .inl (mem_insert_iff.mpr (.inr rfl))
    · exact ih (table.insert first) later

/-! ### What no two rows share -/

section
variable {α : Type} {key : ρ → α}

theorem nodup_insertAll {news : List ρ} (unnumbered : ∀ n row, key (Row.withId n row) = key row)
    (before : (table.rows.map key).Nodup) (apart : (news.map key).Nodup)
    (free : ∀ new ∈ news, ∀ old ∈ table.rows, key old ≠ key new) :
    ((table.insertAll news).rows.map key).Nodup := by
  rw [rows_insertAll, List.map_append, map_numbered unnumbered]
  refine List.Nodup.append before apart fun taken held given => ?_
  obtain ⟨old, member, rfl⟩ := List.mem_map.mp held
  obtain ⟨new, among, same⟩ := List.mem_map.mp given
  exact free new among old member same.symm

theorem nodup_insert {new : ρ} (unnumbered : ∀ n row, key (Row.withId n row) = key row)
    (before : (table.rows.map key).Nodup) (free : ∀ old ∈ table.rows, key old ≠ key new) :
    ((table.insert new).rows.map key).Nodup := by
  show ((table.insertAll [new]).rows.map key).Nodup
  refine nodup_insertAll unnumbered before (List.nodup_singleton (key new)) ?_
  exact List.forall_mem_singleton.mpr free

theorem nodup_replace {new : ρ} (before : (table.rows.map key).Nodup)
    (free : ∀ old ∈ table.rows, Row.id old ≠ Row.id new → key old ≠ key new) :
    ((table.replace new).rows.map key).Nodup := by
  have apart : table.rows.Pairwise fun a b => Row.id a < Row.id b ∧ key a ≠ key b :=
    table.ascending.and (List.pairwise_map.mp before)
  show ((table.rows.map fun old => if Row.id old = Row.id new then new else old).map key).Nodup
  rw [List.map_map]
  refine List.pairwise_map.mpr (apart.imp_of_mem fun {a b} first second ⟨less, differ⟩ => ?_)
  dsimp only [Function.comp_apply]
  split <;> split
  next here there => omega
  next here away => exact (free b second away).symm
  next away there => exact free a first away
  next => exact differ

end

variable {ρ σ : Type} [Row ρ] [Row σ]

/-- A row of the table has a number. -/
def Has (table : Table ρ) (id : Int) : Prop := ∃ row ∈ table.rows, Row.id row = id

/-- What the rows of a table refer to by a number is there. -/
def Refers (sources : Table ρ) (target : ρ → Option Int) (targets : Table σ) : Prop :=
  ∀ row ∈ sources.rows, ∀ id, target row = some id → targets.Has id

/-! ### Numbers that stay -/

section
variable {table : Table ρ} {id : Int} {row new : ρ}

theorem has_of_mem (member : row ∈ table.rows) : table.Has (Row.id row) := ⟨row, member, rfl⟩

theorem has_of_find? (found : table.find? id = some row) : table.Has id :=
  ⟨row, find?_eq_some_iff.mp found⟩

theorem Has.find? (has : table.Has id) : ∃ row, table.find? id = some row := by
  obtain ⟨row, member, named⟩ := has
  exact ⟨row, find?_eq_some_iff.mpr ⟨member, named⟩⟩

theorem Has.insert (has : table.Has id) (new : ρ) : (table.insert new).Has id := by
  obtain ⟨row, member, named⟩ := has
  exact ⟨row, mem_insert_iff.mpr (.inl member), named⟩

theorem Has.insertAll (has : table.Has id) (news : List ρ) : (table.insertAll news).Has id := by
  obtain ⟨row, member, named⟩ := has
  refine ⟨row, ?_, named⟩
  rw [rows_insertAll]
  exact List.mem_append_left _ member

theorem Has.replace (has : table.Has id) (new : ρ) : (table.replace new).Has id := by
  obtain ⟨row, member, rfl⟩ := has
  exact exists_mem_replace member

theorem Has.delete {gone : Int} (has : table.Has id) (stays : id ≠ gone) :
    (table.delete gone).Has id := by
  obtain ⟨row, member, rfl⟩ := has
  exact ⟨row, mem_delete_iff.mpr ⟨member, stays⟩, rfl⟩

end

/-! ### References that stay -/

section
variable {sources : Table ρ} {target : ρ → Option Int} {targets others : Table σ}

theorem refers_nil (empty : sources.rows = []) : sources.Refers target targets := by
  intro row member
  rw [empty] at member
  cases member

theorem Refers.kept (refers : sources.Refers target targets)
    (stay : ∀ id, targets.Has id → others.Has id) : sources.Refers target others :=
  fun row member id named => stay id (refers row member id named)

/-- Rows that come from somewhere refer to what was there: each to what an old row referred to, or
to something that was there when it came. -/
theorem Refers.of_origin {written : Table ρ} (refers : sources.Refers target targets)
    (origin : ∀ row ∈ written.rows, (∃ old ∈ sources.rows, target old = target row) ∨
      ∀ id, target row = some id → targets.Has id) : written.Refers target targets := by
  intro row member id named
  rcases origin row member with ⟨old, before, same⟩ | there
  · exact refers old before id (same.trans named)
  · exact there id named

end

end Outreach.Table
