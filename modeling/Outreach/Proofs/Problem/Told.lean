import Outreach.Api.Application
import Outreach.Proofs.Rule.Declared
import Outreach.Proofs.Schema.Again

/-! Refusals that can be told. Only texts of characters can be sent, so a problem document is sent
if its detail, the path and the trace have nothing else. Values stand in messages between quotes,
with escapes for all that is not printable, and halves of pairs are not. -/

namespace Outreach

/-! ### Texts -/

namespace Text

theorem isWhole_iff {text : String} :
    isWhole text = true ↔ ∀ c ∈ text.toList, isHalf c = false := by
  rw [isWhole, Bool.not_eq_true', List.any_eq_false]
  simp

theorem isWhole_ofList {text : List Char} :
    isWhole (String.ofList text) = true ↔ ∀ c ∈ text, isHalf c = false := by
  rw [isWhole_iff, String.toList_ofList]

@[simp] theorem isWhole_append (first second : String) :
    isWhole (first ++ second) = (isWhole first && isWhole second) := by
  simp [isWhole, String.toList_append]

/-- What is printable is no half: all boundaries lie below the halves, and there is an even number
of them. -/
theorem isHalf_printable {c : Char} (printable : isPrintable c = true) : isHalf c = false := by
  by_contra half
  have far : halfShift ≤ c.toNat := by
    by_contra near
    simp [isHalf, half?, near] at half
  have below : ∀ boundary ∈ printableBoundaries, boundary ≤ halfShift := by decide +kernel
  have even : printableBoundaries.length % 2 = 0 := by decide +kernel
  have all : printableBoundaries.countP (· ≤ c.toNat) = printableBoundaries.length :=
    List.countP_eq_length.mpr fun boundary member => by
      have := below boundary member
      simp only [decide_eq_true_eq]
      omega
  have high : ¬ c.toNat < 0x7f := by
    unfold halfShift at far
    omega
  rw [isPrintable, if_neg high, all, even] at printable
  cases printable

theorem ofInt_whole (n : Int) : isWhole (String.ofList (ofInt n)) = true := by
  have number (n : Nat) : IsAscii (ofNat n) := fun c member => by
    obtain ⟨d, -, rfl⟩ := List.mem_map.mp member
    exact digitChar_ascii d
  unfold ofInt
  split
  · exact isWhole_ascii (.cons (by decide) (number _))
  · exact isWhole_ascii (number _)

end Text

/-! ### Messages of the rule engine -/

namespace RuleError

/-- An error that has no place in a written rule, and a wording that can be sent. -/
structure IsTold (e : RuleError) : Prop where
  path : e.path = none
  message : Text.isWhole e.message = true

end RuleError

namespace Rule

open RuleError

variable {name : String} {value : Value} {e : RuleError}

end Rule

/-! ### Problem documents -/

/-- A refusal that lists nothing and whose wording can be sent. -/
structure Refusal.IsTold (refusal : Refusal) : Prop where
  errors : refusal.errors = none
  detail : Text.isWhole refusal.detail = true

theorem Problem.timestampOf_whole (now : Moment) : Text.isWhole (timestampOf now) = true := by
  have number (width n : Nat) : Text.IsAscii (Text.padded width n) := Text.padded_ascii width n
  have part (width n : Nat) (c : Char) (small : c.toNat < 128) {rest : List Char}
      (later : Text.IsAscii rest) : Text.IsAscii (Text.padded width n ++ c :: rest) :=
    .append (Text.padded_ascii width n) (.cons small later)
  have time : Text.IsAscii (Text.padded 2 now.time.hour ++ ':' :: (Text.padded 2 now.time.minute ++
      ':' :: (Text.padded 2 now.time.second ++ '.' :: (Text.padded 6 now.time.microsecond ++
        'Z' :: [])))) :=
    part _ _ _ (by decide) (part _ _ _ (by decide) (part _ _ _ (by decide)
      (part _ _ _ (by decide) .nil)))
  refine Text.isWhole_ascii (.append (Instant.dateText_ascii now.date) (.cons (by decide) ?_))
  simpa using time

theorem ErrorCode.whole (code : ErrorCode) :
    Text.isWhole code.problemType = true ∧ Text.isWhole code.code = true := by
  cases code <;> decide

namespace Api

variable {env : Environment} {request : Http.Request} {refusal : Refusal}

theorem emailTaken_isTold {email : String} (whole : Text.isWhole email = true) :
    Refusal.IsTold (.emailTaken email) where
  errors := rfl
  detail := by
    show Text.isWhole ("Customer with email " ++ email ++ " already exists") = true
    simp only [Text.isWhole_append, whole]
    decide

end Api

end Outreach
