import Outreach.Proofs.Calendar.Exchange
import Outreach.Text.Digit

/-! Whole numbers are read again from their text. -/

namespace Outreach.Text

/-! ### Blanks -/

theorem dropWhile_unblank {blank : Char → Bool} {text : List Char}
    (filled : ∀ c ∈ text, blank c = false) : text.dropWhile blank = text := by
  cases text with
  | nil => rfl
  | cons c rest => rw [List.dropWhile_cons, filled c (List.mem_cons_self ..)]; rfl

theorem trim_unblank {text : List Char} (filled : ∀ c ∈ text, isBlank c = false) :
    trim text = text := by
  unfold trim trimBy
  rw [dropWhile_unblank filled, dropWhile_unblank (by simpa using filled), List.reverse_reverse]

/-! ### Digits -/

theorem digitValue?_digitChar {d : Nat} (digit : d < 10) : digitValue? (digitChar d) = some d := by
  revert d
  decide

theorem digitChar_plain {d : Nat} (digit : d < 10) :
    isBlank (digitChar d) = false ∧ digitChar d ≠ '_' ∧ digitChar d ≠ '-' ∧ digitChar d ≠ '+' := by
  revert d
  decide

theorem groupedDigits?_digits {written : List Nat} (each : ∀ d ∈ written, d < 10)
    (afterDigit : Bool) (some_digit : afterDigit = true ∨ written ≠ []) :
    groupedDigits? afterDigit (written.map digitChar) = some written := by
  induction written generalizing afterDigit with
  | nil =>
    obtain rfl : afterDigit = true := some_digit.resolve_right (by simp)
    rfl
  | cons d rest ih =>
    rw [List.forall_mem_cons] at each
    rw [List.map_cons, groupedDigits?, if_neg (digitChar_plain each.1).2.1,
      digitValue?_digitChar each.1]
    show (groupedDigits? true (rest.map digitChar)).bind _ = _
    rw [ih each.2 true (.inl rfl)]
    rfl

theorem ofNat_unblank (n : Nat) : ∀ c ∈ ofNat n, isBlank c = false := by
  intro c member
  obtain ⟨d, among, rfl⟩ := List.mem_map.mp member
  exact (digitChar_plain (digits_lt n d among)).1

theorem ofInt_unblank (n : Int) : ∀ c ∈ ofInt n, isBlank c = false := by
  unfold ofInt
  split
  · exact List.forall_mem_cons.mpr ⟨by decide, ofNat_unblank _⟩
  · exact ofNat_unblank _

theorem ofNat_cons (n : Nat) : ∃ d rest, d < 10 ∧ ofNat n = digitChar d :: rest := by
  unfold ofNat
  cases written : digits n with
  | nil => exact absurd written (digits_ne_nil n)
  | cons d rest => exact ⟨d, _, digits_lt n d (by simp [written]), rfl⟩

/-- A text without its sign, and whether that was a minus. -/
def unsigned : List Char → Bool × List Char
  | '-' :: rest => (true, rest)
  | '+' :: rest => (false, rest)
  | rest => (false, rest)

theorem integer?_eq (text : List Char) : integer? text =
    (groupedDigits? false (unsigned (trim text)).2).bind fun digits =>
      if maxIntegerDigits < digits.length then none
      else some (if (unsigned (trim text)).1 then -(ofDigits digits : Int) else ofDigits digits) :=
  rfl

theorem unsigned_ofInt (n : Int) : unsigned (ofInt n) = (decide (n < 0), ofNat n.natAbs) := by
  unfold ofInt
  by_cases negative : n < 0
  · rw [if_pos negative, decide_eq_true negative]
    rfl
  · rw [if_neg negative, decide_eq_false negative]
    obtain ⟨d, rest, digit, begun⟩ := ofNat_cons n.natAbs
    obtain ⟨-, -, noMinus, noPlus⟩ := digitChar_plain digit
    rw [begun]
    unfold unsigned
    split
    next same => exact absurd (List.cons.inj same).1 noMinus
    next same => exact absurd (List.cons.inj same).1 noPlus
    next => rfl

/-- A whole number is read from its text, unless it has more digits than are read. -/
theorem integer?_ofInt {n : Int} (short : (digits n.natAbs).length ≤ maxIntegerDigits) :
    integer? (ofInt n) = some n := by
  have grouped : groupedDigits? false (ofNat n.natAbs) = some (digits n.natAbs) :=
    groupedDigits?_digits (digits_lt _) false (.inr (digits_ne_nil _))
  rw [integer?_eq, trim_unblank (ofInt_unblank n), unsigned_ofInt]
  dsimp only
  rw [grouped, Option.bind_some, if_neg (Nat.not_lt.mpr short), ofDigits_digits]
  congr 1
  by_cases negative : n < 0
  · rw [if_pos (decide_eq_true negative)]
    omega
  · rw [if_neg (by simpa using negative)]
    omega

end Outreach.Text
