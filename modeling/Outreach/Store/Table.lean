/-!
Tables of numbered rows. The numbers are positive and ascend, so no two rows share one; a new row
gets the number after the last, and a number that was last is given again after its row is gone.
-/

namespace Outreach

/-- What rows of a table have in common. -/
class Row (ρ : Type) where
  id : ρ → Int
  withId : Int → ρ → ρ
  id_withId : ∀ (n : Int) (row : ρ), id (withId n row) = n

structure Table (ρ : Type) [Row ρ] where
  rows : List ρ
  ascending : rows.Pairwise fun a b => Row.id a < Row.id b
  positive : ∀ row ∈ rows, 0 < Row.id row

namespace Table

variable {ρ : Type} [Row ρ]

def empty : Table ρ := ⟨[], .nil, by simp⟩

instance : Inhabited (Table ρ) := ⟨empty⟩

/-- The number of rows. -/
def size (table : Table ρ) : Nat := table.rows.length

/-- The row with a number. -/
def find? (table : Table ρ) (id : Int) : Option ρ := table.rows.find? fun row => Row.id row = id

/-- The number of the last row, or zero. -/
def lastId (table : Table ρ) : Int := (table.rows.getLast?.map Row.id).getD 0

theorem id_le_lastId (table : Table ρ) {row : ρ} (member : row ∈ table.rows) :
    Row.id row ≤ table.lastId := by
  obtain ⟨front, last, split⟩ : ∃ front last, table.rows = front ++ [last] :=
    ⟨_, _, (List.dropLast_concat_getLast (List.ne_nil_of_mem member)).symm⟩
  have ascending := table.ascending
  rw [split] at ascending
  have greatest : table.lastId = Row.id last := by simp [lastId, split]
  rw [split, List.mem_append, List.mem_singleton] at member
  rcases member with before | rfl
  · have := (List.pairwise_append.mp ascending).2.2 row before last (by simp)
    omega
  · omega

theorem lastId_nonneg (table : Table ρ) : 0 ≤ table.lastId := by
  unfold lastId
  cases found : table.rows.getLast? with
  | none => simp
  | some row =>
      have := table.positive row (List.mem_of_getLast? found)
      simp only [Option.map_some, Option.getD_some]
      omega

/-- The number that the next row gets. -/
def nextId (table : Table ρ) : Int := table.lastId + 1

/-- Adds a row under the next number. -/
def insert (table : Table ρ) (row : ρ) : Table ρ where
  rows := table.rows ++ [Row.withId table.nextId row]
  ascending := by
    rw [List.pairwise_append]
    refine ⟨table.ascending, by simp, fun old member new isNew => ?_⟩
    rw [List.mem_singleton] at isNew
    rw [isNew, Row.id_withId]
    have := table.id_le_lastId member
    simp only [nextId]
    omega
  positive := by
    intro candidate member
    rcases List.mem_append.mp member with old | new
    · exact table.positive candidate old
    · rw [List.mem_singleton] at new
      rw [new, Row.id_withId]
      have := table.lastId_nonneg
      simp only [nextId]
      omega

/-- Adds rows one after the other. -/
def insertAll (table : Table ρ) (rows : List ρ) : Table ρ := rows.foldl insert table

/-- Adds a row under a number of its own, which no row may have yet. -/
def insertAs? (table : Table ρ) (n : Int) (row : ρ) : Option (Table ρ) :=
  if free : 0 < n ∧ ∀ other ∈ table.rows, Row.id other ≠ n then some {
    rows := (table.rows.filter fun other => Row.id other < n) ++
      Row.withId n row :: table.rows.filter fun other => n < Row.id other
    ascending := by
      rw [List.pairwise_append, List.pairwise_cons]
      refine ⟨table.ascending.sublist List.filter_sublist,
        ⟨fun after member => ?_, table.ascending.sublist List.filter_sublist⟩,
        fun before member later isLater => ?_⟩
      · simpa [Row.id_withId] using (List.mem_filter.mp member).2
      · have below : Row.id before < n := by simpa using (List.mem_filter.mp member).2
        rcases List.mem_cons.mp isLater with rfl | above
        · rwa [Row.id_withId]
        · exact Int.lt_trans below (by simpa using (List.mem_filter.mp above).2)
    positive := by
      intro candidate member
      rcases List.mem_append.mp member with before | later
      · exact table.positive candidate (List.mem_filter.mp before).1
      · rcases List.mem_cons.mp later with rfl | after
        · rw [Row.id_withId]
          exact free.1
        · exact table.positive candidate (List.mem_filter.mp after).1 }
  else none

/-- Puts a row in the place of the one with its number. -/
def replace (table : Table ρ) (row : ρ) : Table ρ where
  rows := table.rows.map fun old => if Row.id old = Row.id row then row else old
  ascending := by
    refine List.pairwise_map.mpr (table.ascending.imp fun {a b} less => ?_)
    split <;> split <;> simp_all
  positive := by
    intro candidate member
    obtain ⟨old, oldMember, rfl⟩ := List.mem_map.mp member
    have := table.positive old oldMember
    split <;> simp_all

/-- Drops the rows that pass a test. -/
def deleteWhere (table : Table ρ) (test : ρ → Bool) : Table ρ where
  rows := table.rows.filter fun row => !test row
  ascending := table.ascending.sublist List.filter_sublist
  positive := fun row member => table.positive row (List.mem_filter.mp member).1

/-- Drops the row with a number. -/
def delete (table : Table ρ) (id : Int) : Table ρ := table.deleteWhere fun row => Row.id row = id

end Table

end Outreach
