import Outreach.Proofs.Json.Numeral
import Outreach.Proofs.Rule.Exact
import Outreach.Proofs.Rule.Renamed

/-! Numbers in quotes and without. A text of a number keeps the number exactly, but the number that
JSON makes of the same letters is a double unless it is whole. So leaves of number fields agree on
both spellings for every customer just when a double has the number that is written, and elsewhere
there is a customer on whom they differ. -/

namespace Outreach

namespace Json.Numeral

variable (n : Numeral)

/-- The power of ten is one that decimals may have. -/
def IsBounded : Prop :=
  n.exponent + Decimal.length n.coefficient - 1 ≤ Decimal.greatestPlace ∧
    Decimal.leastExponent ≤ n.exponent

/-- The number is whole, or not too large for a double. -/
def IsHeld : Prop := n.IsWhole ∨ n.double.isFinite

/-- The number that is left of what is written when JSON is decoded. -/
def held : ℚ := if n.IsWhole then n.value else n.double.value

/-- Both spellings stand for the same number, or neither stands for one. -/
def IsFaithful : Prop := (n.IsBounded ↔ n.IsHeld) ∧ (n.IsHeld → n.held = n.value)

theorem denotes_text {n : Numeral} (bounded : n.IsBounded) :
    (Value.text (String.ofList n.text)).Denotes n.value := by
  refine .text ?_ rfl
  rw [String.toList_ofList]
  exact n.ofText?_text.trans (if_pos bounded)

/-- A whole number keeps its value. -/
theorem value_whole {n : Numeral} (whole : n.IsWhole) :
    n.value = ((if n.negative then -(n.whole : Int) else n.whole : Int) : ℚ) := by
  have exponent : n.exponent = 0 := by
    rw [Numeral.exponent, whole.1, Option.isNone_iff_eq_none.mp whole.2]
    rfl
  rw [value, coefficient_whole whole, exponent, Decimal.value, zpow_zero, mul_one,
    Binary64.signedSignificand]

theorem denotes_decoded {n : Numeral} (fits : n.IsHeld) : n.decoded.Denotes n.held := by
  unfold decoded held
  split
  next whole =>
    rw [value_whole whole]
    exact .int _
  next broken => exact .float (fits.resolve_left broken)

/-- A whole number that JSON is read with has few enough digits for a decimal. -/
theorem isBounded_whole {n : Numeral} (whole : n.IsWhole) (short : ¬ n.IsLong) : n.IsBounded := by
  have exponent : n.exponent = 0 := by
    rw [Numeral.exponent, whole.1, Option.isNone_iff_eq_none.mp whole.2]
    rfl
  have digits : Decimal.length n.whole ≤ maxDigits := Nat.not_lt.mp fun long => short ⟨whole, long⟩
  have most : maxDigits = 4300 := rfl
  unfold IsBounded Decimal.greatestPlace Decimal.leastExponent
  rw [exponent, coefficient_whole whole]
  omega

/-- A whole number, and a number that a double has, is kept by both spellings. -/
theorem held_of_double {n : Numeral} {x : Binary64} (same : x.value = n.value) :
    n.IsHeld ∧ n.held = n.value := by
  obtain ⟨finite, exact⟩ := Binary64.value_ofDecimal same
  refine ⟨.inr finite, ?_⟩
  unfold held
  split
  next => rfl
  next => exact exact.trans same

end Json.Numeral

namespace Rule

section
variable {registry : Registry} {name : FieldName} {field : Field} {subject : Subject}
  {customer rule : Value} {p : ℚ}

/-- A number field that refuses the rule's side of a leaf refuses the leaf. -/
theorem evaluateLeaf_refused (resolved : registry.resolve (.ofFieldName name) = .ok field)
    (numeric : field.type = .number) (found : field.raw? subject = some customer)
    (left : customer.Denotes p) {operator : Operator} (comparing : operator.kind ≠ .membership)
    {e : RuleError} (refused : field.normalize rule = .error e) :
    evaluateLeaf registry name operator rule subject = .error (.rule e) := by
  obtain ⟨first, brought, -⟩ := left.normalize numeric
  have read : field.read subject = .ok first := by simp only [Field.read, found, brought]
  have side : operand field operator rule = .error e := by
    rw [operand, if_neg comparing, refused]
  simp only [evaluateLeaf, resolved, read, side]

variable {n : Json.Numeral}

theorem normalize_unbounded (numeric : field.type = .number) (outside : ¬ n.IsBounded) :
    field.normalize (.text (String.ofList n.text)) =
      .error ⟨.unfit field.name .number (.text (String.ofList n.text)), none⟩ := by
  have read : Decimal.ofText? n.text = none := n.ofText?_text.trans (if_neg outside)
  simp [Field.normalize, numeric, Field.toNumber, Value.asText?, read, Field.mismatch]

theorem normalize_unheld (numeric : field.type = .number) (outside : ¬ n.IsHeld) :
    field.normalize n.decoded =
      .error ⟨.unfit field.name .finiteNumber n.decoded, none⟩ := by
  have infinite : ¬ n.double.isFinite := fun finite => outside (.inr finite)
  have decoded : n.decoded = .float n.double := if_neg fun whole => outside (.inl whole)
  simp [decoded, Field.normalize, numeric, Field.toNumber, infinite, Field.mismatch]

end

/-- The answer of a leaf. -/
def answerOf (registry : Registry) (store : ValueStore) (name : FieldName) (operator : Operator)
    (rule : Value) (subject : Subject) : Answer :=
  matchesWritten registry store (.rule (.leaf name operator rule)) subject

/-- What a comparison with one spelling of a number comes to: what is said of the customer's number
and the one that the spelling stands for, or a mismatch of types where it stands for none. -/
inductive Compares (operator : Operator) (p q : ℚ) : Prop → Answer → Prop where
  | verdict {stands : Prop} (given : stands) :
      Compares operator p q stands (.ok (decide (operator.Relates p q)))
  | mismatch {stands : Prop} (missing : ¬ stands) {e : RuleError} (kind : e.kind = .typeMismatch) :
      Compares operator p q stands (.error (.rule e))

section
variable {registry : Registry} {name : FieldName} {field : Field} {subject : Subject}
  {customer : Value} {p : ℚ} {n : Json.Numeral} {operator : Operator}

theorem answerOf_value (store : ValueStore) {rule : Value}
    (alone : rule.exposed store = rule) :
    answerOf registry store name operator rule subject =
      evaluateLeaf registry name operator rule subject := by
  rw [answerOf, matchesWritten_built]
  simp only [exposed, alone, evaluate]

theorem answerOf_text (resolved : registry.resolve (.ofFieldName name) = .ok field)
    (numeric : field.type = .number) (store : ValueStore)
    (found : field.raw? subject = some customer) (left : customer.Denotes p)
    (comparing : operator.kind ≠ .membership) :
    Compares operator p n.value n.IsBounded
      (answerOf registry store name operator (.text (String.ofList n.text)) subject) := by
  rw [answerOf_value store (by cases store <;> rfl)]
  by_cases bounded : n.IsBounded
  · rw [evaluateLeaf_exact resolved numeric found left (n.denotes_text bounded) comparing]
    exact .verdict bounded
  · rw [evaluateLeaf_refused resolved numeric found left comparing
      (normalize_unbounded numeric bounded)]
    exact .mismatch bounded rfl

theorem answerOf_decoded (resolved : registry.resolve (.ofFieldName name) = .ok field)
    (numeric : field.type = .number) (store : ValueStore)
    (found : field.raw? subject = some customer) (left : customer.Denotes p)
    (comparing : operator.kind ≠ .membership) :
    Compares operator p n.held n.IsHeld
      (answerOf registry store name operator n.decoded subject) := by
  have alone : n.decoded.exposed store = n.decoded := by
    unfold Json.Numeral.decoded
    split <;> cases store <;> rfl
  rw [answerOf_value store alone]
  by_cases fits : n.IsHeld
  · rw [evaluateLeaf_exact resolved numeric found left (n.denotes_decoded fits) comparing]
    exact .verdict fits
  · rw [evaluateLeaf_refused resolved numeric found left comparing (normalize_unheld numeric fits)]
    exact .mismatch fits rfl

/-- Two spellings of one number, or of none, are told apart by no comparison. -/
theorem Compares.sameClass {q r : ℚ} {stands other : Prop} {first second : Answer}
    (left : Compares operator p q stands first) (right : Compares operator p r other second)
    (both : stands ↔ other) (same : other → r = q) : SameClass first second := by
  cases left with
  | verdict given =>
    cases right with
    | verdict given' =>
      rw [same given']
      exact .verdict _
    | mismatch missing => exact absurd (both.mp given) missing
  | mismatch missing kind =>
    cases right with
    | verdict given => exact absurd (both.mpr given) missing
    | mismatch missing' kind' => exact .error (kind.trans kind'.symm)

theorem SameClass.verdicts {b c : Bool} (same : SameClass (.ok b) (.ok c)) : b = c := by
  cases same
  rfl

/-- What two answers of one class say of the spellings behind them. -/
theorem Compares.alike {q r : ℚ} {stands other : Prop} {first second : Answer}
    (left : Compares operator p q stands first) (right : Compares operator p r other second)
    (same : SameClass first second) :
    (stands ↔ other) ∧ (other → (operator.Relates p q ↔ operator.Relates p r)) := by
  cases left with
  | verdict given =>
    cases right with
    | verdict given' =>
      exact ⟨iff_of_true given given', fun _ => decide_eq_decide.mp same.verdicts⟩
    | mismatch missing => cases same
  | mismatch missing =>
    cases right with
    | verdict given => cases same
    | mismatch missing' =>
      exact ⟨iff_of_false missing missing', fun given => absurd given missing'⟩

/-- A customer of whom nothing but one attribute is known. -/
def known (field : Field) (value : Value) : Subject := .mapping [(.text field.name, value)]

theorem raw?_known (field : Field) (value : Value) :
    field.raw? (known field value) = some value := by
  simp [known, Field.raw?, Value.lookup, Value.asText?]

end

/-- A number is compared as it is written where it stands in quotes, and as the whole number or the
nearest double where it does not. So both spellings come to the same answers for all customers
exactly if both stand for one number or neither for any. That is so for whole numbers, and for all
numbers that a double has, but for powers of ten that no decimal has. -/
theorem matchesWritten_quoted {registry : Registry} {name : FieldName} {field : Field}
    (resolved : registry.resolve (.ofFieldName name) = .ok field) (numeric : field.type = .number)
    (store : ValueStore) (n : Json.Numeral) {number : Value}
    (decoded : Json.read n.text = .ok number) :
    (∀ subject customer p, field.raw? subject = some customer → customer.Denotes p →
      ∀ operator : Operator, operator.kind ≠ .membership →
        Compares operator p n.value n.IsBounded
          (answerOf registry store name operator (.text (String.ofList n.text)) subject) ∧
        Compares operator p n.held n.IsHeld
          (answerOf registry store name operator number subject)) ∧
    ((∀ subject customer p, field.raw? subject = some customer → customer.Denotes p →
      ∀ operator : Operator, operator.kind ≠ .membership →
        SameClass (answerOf registry store name operator (.text (String.ofList n.text)) subject)
          (answerOf registry store name operator number subject)) ↔ n.IsFaithful) ∧
    (n.IsWhole → n.IsFaithful) ∧
    ∀ x : Binary64, x.value = n.value → n.IsBounded → n.IsFaithful := by
  have read := n.read_text
  rw [decoded] at read
  have short : ¬ n.IsLong := by
    intro long
    rw [if_pos long] at read
    cases read
  obtain rfl : number = n.decoded := by
    rw [if_neg short] at read
    exact Except.ok.inj read
  have compared {subject customer p} (found : field.raw? subject = some customer)
      (left : customer.Denotes p) (operator : Operator) (comparing : operator.kind ≠ .membership) :=
    And.intro (answerOf_text (n := n) resolved numeric store found left comparing)
      (answerOf_decoded (n := n) resolved numeric store found left comparing)
  refine ⟨fun subject customer p found left => compared found left, ⟨?_, ?_⟩, ?_, ?_⟩
  · intro same
    have equal : Operator.equal.kind ≠ .membership := by decide
    have judged {value : Value} {p : ℚ} (left : value.Denotes p) :=
      (compared (raw?_known field value) left .equal equal).1.alike
        (compared (raw?_known field value) left .equal equal).2
        (same _ _ _ (raw?_known field value) left .equal equal)
    refine ⟨(judged (.int 0)).1, fun fits => ?_⟩
    by_cases whole : n.IsWhole
    · exact if_pos whole
    · -- The customer whose number is the double itself tells the two apart.
      have held : n.held = n.double.value := if_neg whole
      have told := (judged (.float (fits.resolve_left whole))).2 fits
      rw [held]
      exact told.mpr held.symm
  · intro faithful subject customer p found left operator comparing
    obtain ⟨text, bare⟩ := compared found left operator comparing
    exact text.sameClass bare faithful.1 faithful.2
  · intro whole
    exact ⟨iff_of_true (Json.Numeral.isBounded_whole whole short) (.inl whole),
      fun _ => if_pos whole⟩
  · intro x same bounded
    obtain ⟨fits, exact⟩ := Json.Numeral.held_of_double same
    exact ⟨iff_of_true bounded fits, fun _ => exact⟩

/-- The total spend in the standard registry. -/
def spendField : Field := ⟨"totalSpend", "total_spend", .number, "Lifetime order amount"⟩

theorem resolve_totalSpend :
    Registry.standard.resolve (.ofFieldName (.word "totalSpend")) = .ok spendField := rfl

/-- The number 12.5, which is 25 halves. -/
def twelveAndHalf : Json.Numeral := ⟨false, 12, [5], none⟩

def twelveAndHalfDouble : Binary64 := .finite false 7036874417766400 (-49) (by decide)

/-- A customer who spent 12 and a half has spent so much in either spelling. -/
theorem twelveAndHalf_quoted :
    Registry.standard.resolve (.ofFieldName (.word "totalSpend")) = .ok spendField ∧
    Json.read twelveAndHalf.text = .ok (.float twelveAndHalf.double) ∧
    twelveAndHalf.IsFaithful ∧
    SameClass
      (answerOf Registry.standard [] (.word "totalSpend") .equal
        (.text (String.ofList twelveAndHalf.text)) (known spendField (.float twelveAndHalfDouble)))
      (answerOf Registry.standard [] (.word "totalSpend") .equal
        (.float twelveAndHalf.double) (known spendField (.float twelveAndHalfDouble))) := by
  have digits : Text.digits 12 = [1, 2] := by simp [Text.digits]
  have coefficient : twelveAndHalf.coefficient = 125 := by
    rw [Json.Numeral.coefficient, twelveAndHalf, digits]
    rfl
  have exponent : twelveAndHalf.exponent = -1 := rfl
  have broken : ¬ twelveAndHalf.IsWhole := by decide
  have short : ¬ twelveAndHalf.IsLong := fun long => broken long.1
  have decoded : twelveAndHalf.decoded = .float twelveAndHalf.double := if_neg broken
  have read : Json.read twelveAndHalf.text = .ok (.float twelveAndHalf.double) := by
    rw [Json.Numeral.read_text, if_neg short, decoded]
  have same : twelveAndHalfDouble.value = twelveAndHalf.value := by
    rw [Json.Numeral.value, coefficient, exponent]
    norm_num [twelveAndHalfDouble, twelveAndHalf, Binary64.value, Decimal.value,
      Binary64.signedSignificand]
  have length : Decimal.length 125 = 3 := by simp [Decimal.length, Text.digits]
  have bounded : twelveAndHalf.IsBounded := by
    rw [Json.Numeral.IsBounded, coefficient, exponent, length]
    decide
  obtain ⟨-, agree, -, doubles⟩ :=
    matchesWritten_quoted resolve_totalSpend rfl [] twelveAndHalf read
  have faithful := doubles twelveAndHalfDouble same bounded
  have finite : twelveAndHalfDouble.isFinite := rfl
  exact ⟨resolve_totalSpend, read, faithful,
    agree.mpr faithful _ _ _ (raw?_known spendField _) (.float finite) .equal (by decide)⟩

/-- One tenth, which no double is. -/
def tenth : Json.Numeral := ⟨false, 0, [1], none⟩

/-- The double next to one tenth. It is a little more. -/
def tenthDouble : Binary64 := .finite false 7205759403792794 (-56) (by decide)

/-- A customer who spent 0.1 has spent the number 0.1, but not the number in quotes. -/
theorem tenth_unquoted_only :
    Json.read "0.1".toList = .ok (.float tenthDouble) ∧
    matchesWritten Registry.standard [] (.rule (.leaf (.word "totalSpend") .equal
      (.float tenthDouble))) (.mapping [(.text "totalSpend", .float tenthDouble)]) = .ok true ∧
    matchesWritten Registry.standard [] (.rule (.leaf (.word "totalSpend") .equal
      (.text "0.1"))) (.mapping [(.text "totalSpend", .float tenthDouble)]) = .ok false := by
  have digits : Text.digits 0 = [0] := by simp [Text.digits]
  have text : tenth.text = "0.1".toList := by
    simp only [Json.Numeral.text, Json.Numeral.unsignedText, tenth, Text.ofNat, digits]
    rfl
  have coefficient : tenth.coefficient = 1 := by
    rw [Json.Numeral.coefficient, tenth, digits]
    rfl
  have double : tenth.double = tenthDouble := by
    rw [Json.Numeral.double, coefficient]
    decide +kernel
  have broken : ¬ tenth.IsWhole := by decide
  have short : ¬ tenth.IsLong := fun long => broken long.1
  have decoded : tenth.decoded = .float tenth.double := if_neg broken
  have written : (Value.text "0.1").Denotes (1 / 10) := by
    have read : Decimal.ofText? "0.1".toList = some (.finite false 1 (-1)) := by decide +kernel
    have exact : (Decimal.finite false 1 (-1)).value = 1 / 10 := by
      norm_num [Decimal.value, Binary64.signedSignificand]
    rw [← exact]
    exact .text read rfl
  have found : spendField.raw? (.mapping [(.text "totalSpend", .float tenthDouble)]) =
      some (.float tenthDouble) := rfl
  have comparing : Operator.equal.kind ≠ .membership := by decide
  have finite : tenthDouble.isFinite := rfl
  refine ⟨?_, ?_, ?_⟩
  · rw [← text, Json.Numeral.read_text, if_neg short, decoded, double]
  · rw [matchesWritten_built]
    refine (evaluateLeaf_exact resolve_totalSpend rfl found (.float finite) (.float finite)
      comparing).trans (congrArg Except.ok ?_)
    exact decide_eq_true rfl
  · rw [matchesWritten_built]
    refine (evaluateLeaf_exact resolve_totalSpend rfl found (.float finite) written
      comparing).trans (congrArg Except.ok ?_)
    apply decide_eq_false
    norm_num [Operator.Relates, tenthDouble, Binary64.value, Binary64.signedSignificand]

end Rule

end Outreach
