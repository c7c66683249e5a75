import Outreach.Store.Outcome

/-! Steps that may end early, one after the other: what is known of each when all of them have come
through, and of the step that ended them when they have not. -/

namespace Outreach

variable {ε α β : Type}

theorem bind_eq_ok_iff {first : Except ε α} {next : α → Except ε β} {result : β} :
    (first >>= next) = .ok result ↔ ∃ value, first = .ok value ∧ next value = .ok result := by
  cases first <;> simp [bind, Except.bind]

theorem bind_eq_error_iff {first : Except ε α} {next : α → Except ε β} {e : ε} :
    (first >>= next) = .error e ↔
      first = .error e ∨ ∃ value, first = .ok value ∧ next value = .error e := by
  cases first <;> simp [bind, Except.bind]

theorem map_eq_ok_iff {f : α → β} {first : Except ε α} {result : β} :
    first.map f = .ok result ↔ ∃ value, first = .ok value ∧ f value = result := by
  cases first <;> simp [Except.map]

theorem toOption_eq_some_iff {first : Except ε α} {value : α} :
    first.toOption = some value ↔ first = .ok value := by
  cases first <;> simp [Except.toOption]

theorem mapError_eq_ok_iff {δ : Type} {f : ε → δ} {first : Except ε α} {result : α} :
    first.mapError f = .ok result ↔ first = .ok result := by
  constructor
  · intro done
    cases first with
    | ok value => exact congrArg Except.ok (Except.ok.inj done)
    | error cause => cases done
  · rintro rfl
    rfl

theorem ensureFits_eq_ok_iff {n : Int} {done : Unit} : ensureFits n = .ok done ↔ fitsColumn n := by
  unfold ensureFits
  by_cases fits : fitsColumn n <;> simp [fits, mishap]

theorem forM_ensureFits_eq_ok_iff {ρ : Type} {column : ρ → Int} {rows : List ρ} {done : Unit} :
    rows.forM (fun row => ensureFits (column row)) = .ok done ↔
      ∀ row ∈ rows, fitsColumn (column row) := by
  induction rows with
  | nil => exact iff_of_true rfl (by simp)
  | cons row rest ih =>
    rw [List.forall_mem_cons, ← ih]
    exact bind_eq_ok_iff.trans ⟨fun ⟨_, here, later⟩ => ⟨ensureFits_eq_ok_iff.mp here, later⟩,
      fun ⟨here, later⟩ => ⟨(), ensureFits_eq_ok_iff.mpr here, later⟩⟩

theorem ensureFits_error {n : Int} {halt : Halt} (failed : ensureFits n = .error halt) :
    halt = .failed .oversizedNumber := by
  unfold ensureFits at failed
  split at failed
  next => cases failed
  next =>
    cases failed
    rfl

/-- Columns refuse nothing; what they cannot hold makes a request fail. -/
theorem forM_ensureFits_error {ρ : Type} {column : ρ → Int} {rows : List ρ} {halt : Halt}
    (failed : rows.forM (fun row => ensureFits (column row)) = .error halt) :
    halt = .failed .oversizedNumber := by
  induction rows with
  | nil => cases failed
  | cons row rest ih =>
    rcases bind_eq_error_iff.mp failed with here | ⟨_, -, later⟩
    · exact ensureFits_error here
    · exact ih later

theorem orFail_eq_ok_iff {value? : Option α} {value : α} :
    orFail value? = .ok value ↔ value? = some value := by
  cases value? <;> simp [orFail, mishap]

end Outreach
