import Outreach.Proofs.Rule.Offence
import Outreach.Rule.Evaluation

/-! Evaluation as sequential three-valued logic. The answers of a composite's children are gone
through from left to right, and the first that is not neutral for the condition is the answer of the
composite, whether it is a verdict or an error. -/

namespace Outreach

/-- The verdict that a composite comes to when every child has it. -/
def Condition.neutral : Condition → Bool
  | .all => true
  | .any => false

namespace Rule

/-- The first answer that is not neutral, or the neutral verdict. -/
def sequence (neutral : Bool) : List Answer → Answer
  | [] => .ok neutral
  | .ok verdict :: rest => if verdict = neutral then sequence neutral rest else .ok verdict
  | .error e :: _ => .error e

/-- Some child has the answer, and all children before it are neutral. -/
def Decides (judge : Rule → Answer) (neutral : Bool) (answer : Answer) (rules : List Rule) : Prop :=
  ∃ before rule after, rules = before ++ rule :: after ∧ judge rule = answer ∧
    ∀ earlier ∈ before, judge earlier = .ok neutral

theorem sequence_cons_neutral (neutral : Bool) (rest : List Answer) :
    sequence neutral (.ok neutral :: rest) = sequence neutral rest := by
  simp [sequence]

theorem sequence_cons_decisive {neutral : Bool} {answer : Answer} (decisive : answer ≠ .ok neutral)
    (rest : List Answer) : sequence neutral (answer :: rest) = answer := by
  cases answer with
  | error e => rfl
  | ok verdict =>
    have other : verdict ≠ neutral := fun same => decisive (by rw [same])
    simp [sequence, other]

theorem sequence_append_neutral {neutral : Bool} {before : List Answer}
    (passed : ∀ answer ∈ before, answer = .ok neutral) (rest : List Answer) :
    sequence neutral (before ++ rest) = sequence neutral rest := by
  induction before with
  | nil => rfl
  | cons answer before ih =>
    rw [List.forall_mem_cons] at passed
    rw [List.cons_append, passed.1, sequence_cons_neutral, ih passed.2]

/-- A sequence is neutral throughout, or it breaks at its first answer that is not. -/
theorem sequence_cases (judge : Rule → Answer) (neutral : Bool) (rules : List Rule) :
    ((∀ rule ∈ rules, judge rule = .ok neutral) ∧
      sequence neutral (rules.map judge) = .ok neutral) ∨
    ∃ answer, answer ≠ .ok neutral ∧ Decides judge neutral answer rules ∧
      sequence neutral (rules.map judge) = answer := by
  induction rules with
  | nil => exact .inl ⟨by simp, rfl⟩
  | cons rule rest ih =>
    by_cases passed : judge rule = .ok neutral
    · rw [List.map_cons, passed, sequence_cons_neutral]
      rcases ih with ⟨all, result⟩ |
        ⟨answer, decisive, ⟨before, found, after, rfl, has, earlier⟩, result⟩
      · exact .inl ⟨by simpa using ⟨passed, all⟩, result⟩
      · exact .inr ⟨answer, decisive,
          ⟨rule :: before, found, after, rfl, has, by simpa using ⟨passed, earlier⟩⟩, result⟩
    · exact .inr ⟨judge rule, passed, ⟨[], rule, rest, rfl, rfl, by simp⟩,
        sequence_cons_decisive passed _⟩

theorem Decides.sequence {judge : Rule → Answer} {neutral : Bool} {answer : Answer}
    {rules : List Rule} (decides : Decides judge neutral answer rules)
    (decisive : answer ≠ .ok neutral) : sequence neutral (rules.map judge) = answer := by
  obtain ⟨before, rule, after, rfl, rfl, earlier⟩ := decides
  rw [List.map_append, sequence_append_neutral (by simpa using earlier), List.map_cons,
    sequence_cons_decisive decisive]

theorem sequence_eq_iff {judge : Rule → Answer} {neutral : Bool} {answer : Answer}
    {rules : List Rule} (decisive : answer ≠ .ok neutral) :
    sequence neutral (rules.map judge) = answer ↔ Decides judge neutral answer rules := by
  constructor
  · rintro rfl
    rcases sequence_cases judge neutral rules with ⟨-, result⟩ | ⟨answer, -, decides, result⟩
    · exact absurd result decisive
    · rwa [result]
  · exact fun decides => decides.sequence decisive

theorem evaluateAll_eq_sequence (registry : Registry) (subject : Subject) (rules : List Rule) :
    evaluateAll registry subject rules =
      sequence true (rules.map (evaluate registry subject)) := by
  induction rules with
  | nil => rfl
  | cons rule rest ih =>
    rw [evaluateAll, List.map_cons, ih]
    split
    next passed => rw [passed, sequence_cons_neutral]
    next decisive => rw [sequence_cons_decisive decisive]

theorem evaluateAny_eq_sequence (registry : Registry) (subject : Subject) (rules : List Rule) :
    evaluateAny registry subject rules =
      sequence false (rules.map (evaluate registry subject)) := by
  induction rules with
  | nil => rfl
  | cons rule rest ih =>
    rw [evaluateAny, List.map_cons, ih]
    split
    next passed => rw [passed, sequence_cons_neutral]
    next decisive => rw [sequence_cons_decisive decisive]

/-- A composite's answer is the sequence of its children's answers. -/
theorem evaluate_composite (registry : Registry) (subject : Subject) (condition : Condition)
    (rules : List Rule) :
    evaluate registry subject (.composite condition rules) =
      sequence condition.neutral (rules.map (evaluate registry subject)) := by
  cases condition with
  | all => rw [evaluate, evaluateAll_eq_sequence, Condition.neutral]
  | any => rw [evaluate, evaluateAny_eq_sequence, Condition.neutral]

theorem matchesWritten_of_error {store : ValueStore} {written : Value} {e : RuleError}
    (refused : parseShared store written rootPath = .error e) (registry : Registry)
    (subject : Subject) : matchesWritten registry store written subject = .error (.rule e) := by
  simp only [matchesWritten, refused]

theorem matchesWritten_of_ok {store : ValueStore} {written : Value} {rule : Rule}
    (read : parseShared store written rootPath = .ok rule) (registry : Registry)
    (subject : Subject) :
    matchesWritten registry store written subject = evaluate registry subject rule := by
  simp only [matchesWritten, read]

end Rule

end Outreach
