import Outreach.Rule.Evaluation

/-!
Counting the customers that match a rule. A count goes through its customers once, in order, and
stops at the first that cannot be evaluated; how many customers were drawn is part of the result.
Customers may come from a list, from a source that hands them out one by one, or cut into parts
that are counted on their own.
-/

namespace Outreach.Audience

/-- The outcome of a count and the number of customers drawn for it. -/
structure Tally where
  outcome : Except EvaluationError Nat
  drawn : Nat
deriving Repr

/-- Counts on from `count` matches among `drawn` customers. -/
def tallyFrom (registry : Registry) (rule : Rule) : (count drawn : Nat) → List Subject → Tally
  | count, drawn, [] => ⟨.ok count, drawn⟩
  | count, drawn, subject :: rest =>
      match rule.evaluate registry subject with
      | .ok true => tallyFrom registry rule (count + 1) (drawn + 1) rest
      | .ok false => tallyFrom registry rule count (drawn + 1) rest
      | .error e => ⟨.error e, drawn + 1⟩

/-- Counts the matching customers of a list. -/
def tally (registry : Registry) (rule : Rule) (subjects : List Subject) : Tally :=
  tallyFrom registry rule 0 0 subjects

/-- A source of customers: what its state hands out next, if anything. -/
structure Source (σ : Type) where
  state : σ
  next : σ → Option (Subject × σ)

/-- The source that hands out a list. -/
def Source.ofList (subjects : List Subject) : Source (List Subject) where
  state := subjects
  next
    | [] => none
    | subject :: rest => some (subject, rest)

/-- Counts on from a state of a source, drawing at most `limit` customers more. -/
def drain {σ : Type} (registry : Registry) (rule : Rule) (next : σ → Option (Subject × σ)) :
    (limit : Nat) → σ → (count drawn : Nat) → Tally
  | 0, _, count, drawn => ⟨.ok count, drawn⟩
  | limit + 1, state, count, drawn =>
      match next state with
      | none => ⟨.ok count, drawn⟩
      | some (subject, state) =>
          match rule.evaluate registry subject with
          | .ok holds =>
              drain registry rule next limit state (if holds then count + 1 else count) (drawn + 1)
          | .error e => ⟨.error e, drawn + 1⟩

/-- Reads a written rule and counts; a rule that cannot be read draws no customer. -/
def estimate (registry : Registry) (store : ValueStore) (written : Value)
    (subjects : List Subject) : Tally :=
  match Rule.parseShared store written Rule.rootPath with
  | .ok rule => tally registry rule subjects
  | .error e => ⟨.error (.rule e), 0⟩

/-- Reads a written rule and counts the customers that a source hands out, at most `limit`. -/
def estimateFrom {σ : Type} (registry : Registry) (store : ValueStore) (written : Value)
    (limit : Nat) (source : Source σ) : Tally :=
  match Rule.parseShared store written Rule.rootPath with
  | .ok rule => drain registry rule source.next limit source.state 0 0
  | .error e => ⟨.error (.rule e), 0⟩

/-- Counts with the fields that every customer has. -/
def estimateStandard (store : ValueStore) (written : Value) (subjects : List Subject) : Tally :=
  estimate Registry.standard store written subjects

/-- The sum of counts, or the first error among them. -/
def sumOutcomes : List (Except EvaluationError Nat) → Except EvaluationError Nat
  | [] => .ok 0
  | .error e :: _ => .error e
  | .ok count :: rest =>
      match sumOutcomes rest with
      | .ok total => .ok (count + total)
      | .error e => .error e

/-- Reads a written rule and counts every part on its own. -/
def estimateParts (registry : Registry) (store : ValueStore) (written : Value)
    (parts : List (List Subject)) : Except EvaluationError Nat :=
  match Rule.parseShared store written Rule.rootPath with
  | .ok rule => sumOutcomes (parts.map fun part => (tally registry rule part).outcome)
  | .error e => .error (.rule e)

end Outreach.Audience
