import Mathlib.Data.List.Perm.Basic
import Outreach.Proofs.Rule.Dual
import Outreach.Proofs.Rule.Unfolded

/-! Rules whose children stand in another order. Where both orders come to a verdict it is the same
one: what decides one of them would have to decide the other. An error is all that may come or go
with the order, and it does not where no leaf has one. -/

namespace Outreach.Rule

/-- The same tree, but for the order of the children of its composites. -/
inductive Reordered : Rule → Rule → Prop where
  | leaf (name : FieldName) (operator : Operator) (value : Value) :
      Reordered (.leaf name operator value) (.leaf name operator value)
  | composite (condition : Condition) {pairs : List (Rule × Rule)} {rules : List Rule}
      (each : ∀ pair ∈ pairs, Reordered pair.1 pair.2)
      (order : (pairs.map Prod.snd).Perm rules) :
      Reordered (.composite condition (pairs.map Prod.fst)) (.composite condition rules)

/-- The same written rule, but for the order of the children of its composites. -/
inductive Rearranged : Value → Value → Prop where
  | same (written : Value) : Rearranged written written
  | composite {entries : List (Value × Value)} {pairs : List (Value × Value)}
      {children : List Value} (listed : HasChildren [] (.dict entries) (pairs.map Prod.fst))
      (each : ∀ pair ∈ pairs, Rearranged pair.1 pair.2)
      (order : (pairs.map Prod.snd).Perm children) :
      Rearranged (.dict entries) (.dict (withChildren entries children))

/-- Two answers of which not one is true and the other one false. -/
def Compatible (first second : Answer) : Prop :=
  ∀ verdict other, first = .ok verdict → second = .ok other → verdict = other

/-- No leaf of the rule fails on the subject. -/
def IsSafe (registry : Registry) (subject : Subject) (rule : Rule) : Prop :=
  ∀ name operator value, HasLeaf name operator value rule →
    ∃ verdict, evaluateLeaf registry name operator value subject = .ok verdict

section
variable {registry : Registry} {subject : Subject}

/-- A verdict of a sequence is the neutral one, which every child has, or that of some child. -/
theorem sequence_verdict {judge : Rule → Answer} {neutral verdict : Bool} {rules : List Rule}
    (result : sequence neutral (rules.map judge) = .ok verdict) :
    (verdict = neutral ∧ ∀ rule ∈ rules, judge rule = .ok neutral) ∨
      (verdict = !neutral ∧ ∃ rule ∈ rules, judge rule = .ok !neutral) := by
  rcases sequence_cases judge neutral rules with ⟨all, passed⟩ |
    ⟨answer, decisive, ⟨before, rule, after, rfl, has, -⟩, stopped⟩
  · exact .inl ⟨Except.ok.inj (result.symm.trans passed), all⟩
  · have told : judge rule = .ok verdict := has.trans (stopped.symm.trans result)
    have opposite : verdict = !neutral := by
      have other : verdict ≠ neutral := by
        rintro rfl
        exact decisive (has.symm.trans told)
      cases verdict <;> cases neutral <;> simp_all
    exact .inr ⟨opposite, rule, by simp, opposite ▸ told⟩

/-- In two orders of one tree no verdict is turned around. Were all children of one neutral, the
child that decides the other would have a neutral counterpart. -/
theorem Reordered.compatible {rule other : Rule} (reordered : Reordered rule other) :
    Compatible (evaluate registry subject rule) (evaluate registry subject other) := by
  induction reordered with
  | leaf name operator value =>
    intro verdict other first second
    exact Except.ok.inj (first.symm.trans second)
  | @composite condition pairs rules each order ih =>
    intro verdict other first second
    rw [evaluate_composite] at first second
    rcases sequence_verdict first with ⟨rfl, all⟩ | ⟨rfl, part, member, decides⟩
    · rcases sequence_verdict second with ⟨rfl, -⟩ | ⟨-, part, member, decides⟩
      · rfl
      · obtain ⟨pair, among, rfl⟩ := List.mem_map.mp (order.mem_iff.mpr member)
        have neutral := all pair.1 (List.mem_map_of_mem among)
        have same := ih pair among _ _ neutral decides
        simp at same
    · rcases sequence_verdict second with ⟨-, all⟩ | ⟨rfl, -⟩
      · obtain ⟨pair, among, rfl⟩ := List.mem_map.mp member
        have neutral := all pair.2 (order.mem_iff.mp (List.mem_map_of_mem among))
        have same := ih pair among _ _ decides neutral
        simp at same
      · rfl

theorem Reordered.hasLeaf {rule other : Rule} (reordered : Reordered rule other) {name : FieldName}
    {operator : Operator} {value : Value} (held : HasLeaf name operator value other) :
    HasLeaf name operator value rule := by
  induction reordered with
  | leaf => exact held
  | @composite condition pairs rules each order ih =>
    cases held with
    | inside member below =>
      obtain ⟨pair, among, rfl⟩ := List.mem_map.mp (order.mem_iff.mpr member)
      exact .inside (List.mem_map_of_mem among) (ih pair among below)

@[simp] theorem isSafe_leaf_iff {name : FieldName} {operator : Operator} {value : Value} :
    IsSafe registry subject (.leaf name operator value) ↔
      ∃ verdict, evaluateLeaf registry name operator value subject = .ok verdict := by
  constructor
  · exact fun safe => safe name operator value .here
  · rintro passes _ _ _ ⟨⟩
    exact passes

@[simp] theorem isSafe_composite_iff {condition : Condition} {rules : List Rule} :
    IsSafe registry subject (.composite condition rules) ↔
      ∀ rule ∈ rules, IsSafe registry subject rule := by
  constructor
  · exact fun safe rule member name operator value held =>
      safe name operator value (.inside member held)
  · intro each name operator value held
    cases held with
    | inside member below => exact each _ member name operator value below

theorem IsSafe.evaluate {rule : Rule} (safe : IsSafe registry subject rule) :
    ∃ verdict, Rule.evaluate registry subject rule = .ok verdict := by
  cases outcome : Rule.evaluate registry subject rule with
  | ok verdict => exact ⟨verdict, rfl⟩
  | error e =>
    obtain ⟨name, operator, value, held, failed⟩ := evaluate_error outcome
    obtain ⟨verdict, passed⟩ := safe name operator value held
    cases passed.symm.trans failed

/-- Where no leaf fails both orders come to a verdict. -/
theorem Reordered.evaluate_safe {rule other : Rule} (reordered : Reordered rule other)
    (safe : IsSafe registry subject rule) :
    ∃ verdict, evaluate registry subject rule = .ok verdict ∧
      evaluate registry subject other = .ok verdict := by
  have safe' : IsSafe registry subject other :=
    fun name operator value held => safe name operator value (reordered.hasLeaf held)
  obtain ⟨verdict, first⟩ := safe.evaluate
  obtain ⟨verdict', second⟩ := safe'.evaluate
  obtain rfl := reordered.compatible verdict verdict' first second
  exact ⟨verdict, first, second⟩

end

theorem Reordered.map {α : Type} (condition : Condition) {items : List α} {first second : α → Rule}
    {rules : List Rule} (each : ∀ item ∈ items, Reordered (first item) (second item))
    (order : (items.map second).Perm rules) :
    Reordered (.composite condition (items.map first)) (.composite condition rules) := by
  let pairs := items.map fun item => (first item, second item)
  have left : pairs.map Prod.fst = items.map first := by simp [pairs]
  have right : pairs.map Prod.snd = items.map second := by simp [pairs]
  rw [← left]
  refine .composite condition ?_ (right ▸ order)
  intro pair member
  obtain ⟨item, among, rfl⟩ := List.mem_map.mp member
  exact each item among

theorem Reordered.refl (rule : Rule) : Reordered rule rule := by
  induction rule using treeInduction with
  | leaf name operator value => exact .leaf name operator value
  | composite condition rules ih =>
    simpa using Reordered.map condition ih (.refl (rules.map id))

theorem Reordered.of_perm (condition : Condition) {rules others : List Rule}
    (order : rules.Perm others) :
    Reordered (.composite condition rules) (.composite condition others) := by
  have same : (rules.map id).Perm others := by simpa using order
  simpa using Reordered.map condition (fun rule _ => Reordered.refl rule) same

theorem Reordered.exposed {rule other : Rule} (reordered : Reordered rule other)
    (store : ValueStore) : Reordered (rule.exposed store) (other.exposed store) := by
  induction reordered with
  | leaf name operator value => exact .leaf name operator _
  | @composite condition pairs rules each order ih =>
    simp only [Rule.exposed, exposedAll_eq_map, List.map_map]
    refine .map condition ih ?_
    simpa [Function.comp_def] using order.map (Rule.exposed store)

/-! ### Written rules -/

/-- A value is read as a rule wherever it stands. -/
def Reads (parse : Value → String → Except RuleError Rule) (written : Value) (rule : Rule) : Prop :=
  ∀ path, parse written path = .ok rule

theorem operatorOf_elsewhere {path : Option String} {token : Value} {operator : Operator}
    (found : operatorOf path token = .ok operator) (other : Option String) :
    operatorOf other token = .ok operator := by
  unfold operatorOf at found ⊢
  split at found
  next => exact found
  next => cases found

theorem parseLeaf_elsewhere {store : ValueStore} {entries : List (Value × Value)} {path : String}
    {rule : Rule} (read : parseLeaf store entries path = .ok rule) (other : String) :
    parseLeaf store entries other = .ok rule := by
  unfold parseLeaf at read ⊢
  split at read
  next =>
    split at read
    next =>
      split at read
      next => cases read
      next nonempty =>
        split at read
        next operator found =>
          simp only [nonempty, operatorOf_elsewhere found (some other)]
          exact read
        next => cases read
    next => cases read
  next => cases read

theorem parseEach_ok_iff {parse : Value → String → Except RuleError Rule}
    (elsewhere : ∀ child path rule, parse child path = .ok rule → Reads parse child rule)
    {path : String} {index : Nat} {children : List Value} {rules : List Rule} :
    parseEach parse path index children = .ok rules ↔
      List.Forall₂ (Reads parse) children rules := by
  induction children generalizing index rules with
  | nil => cases rules <;> simp [parseEach]
  | cons child rest ih =>
    unfold parseEach
    constructor
    · intro read
      split at read
      next => cases read
      next rule here =>
        split at read
        next => cases read
        next others later =>
          cases read
          exact .cons (elsewhere child _ rule here) (ih.mp later)
    · rintro (_ | ⟨here, later⟩)
      simp only [here _, ih.mpr later]

theorem parseNode_elsewhere {store : ValueStore} {levels : Nat} {enclosing : List Nat}
    {value : Value} {path : String} {rule : Rule}
    (read : parseNode store levels enclosing value path = .ok rule) :
    Reads (parseNode store levels enclosing) value rule := by
  induction levels using Nat.strongRecOn generalizing enclosing value path rule with
  | ind levels ih =>
    intro other
    unfold parseNode at read ⊢
    cases found : node store value with
    | ready ready =>
      rw [found] at read
      exact read
    | other kind =>
      rw [found] at read
      cases read
    | mapping identity entries =>
      simp only [found] at read ⊢
      split at read
      next => cases read
      next fresh =>
        rw [if_neg fresh]
        split at read
        next unconditioned => exact parseLeaf_elsewhere read other
        next word conditioned =>
          split at read
          next => cases read
          next condition _ =>
            split at read
            next => cases read
            next children _ =>
              split at read
              next => cases read
              next lower =>
                have each := fun child path rule => @ih lower (Nat.lt_succ_self lower)
                  (identity.toList ++ enclosing) child path rule
                split at read
                next => cases read
                next rules row =>
                  have again := (parseEach_ok_iff each).mp row
                  simp only [(parseEach_ok_iff each).mpr again]
                  exact read

/-- A composite is read wherever it stands when it has a condition and a level below it, where its
children are read. -/
theorem reads_composite_iff {entries : List (Value × Value)} {word : Value} {children : List Value}
    {levels : Nat} {rule : Rule} (found : Value.lookup entries "condition" = some word)
    (listed : HasChildren [] (.dict entries) children) :
    Reads (parseNode [] levels []) (.dict entries) rule ↔
      ∃ condition lower rules, conditionOf? word = some condition ∧ levels = lower + 1 ∧
        rule = .composite condition rules ∧
        List.Forall₂ (Reads (parseNode [] lower [])) children rules := by
  have items := (hasChildren_iff rfl found).mp listed
  have elsewhere (lower : Nat) (child : Value) (path : String) (rule : Rule) :
      parseNode [] lower [] child path = .ok rule → Reads (parseNode [] lower []) child rule :=
    parseNode_elsewhere
  have step {condition : Condition} (named : conditionOf? word = some condition) (lower : Nat)
      (path : String) : parseNode [] (lower + 1) [] (.dict entries) path =
        (parseEach (parseNode [] lower []) path 0 children).map (.composite condition) :=
    parseNode_composite rfl unshared_of_dict found named items lower path
  constructor
  · intro read
    cases named : conditionOf? word with
    | none =>
      have refused : parseNode [] levels [] (.dict entries) rootPath = .error _ :=
        parseNode_badCondition rfl unshared_of_dict found named levels rootPath
      cases refused.symm.trans (read rootPath)
    | some condition =>
      cases levels with
      | zero =>
        have refused : parseNode [] 0 [] (.dict entries) rootPath = .error _ :=
          parseNode_tooDeep rfl unshared_of_dict found named items rootPath
        cases refused.symm.trans (read rootPath)
      | succ lower =>
        obtain ⟨rules, row, rfl⟩ :=
          map_eq_ok_iff.mp ((step named lower rootPath).symm.trans (read rootPath))
        exact ⟨condition, lower, rules, rfl, rfl, rfl, (parseEach_ok_iff (elsewhere lower)).mp row⟩
  · rintro ⟨condition, lower, rules, named, rfl, rfl, row⟩ path
    rw [step named lower path, (parseEach_ok_iff (elsewhere lower)).mpr row]
    rfl

/-- Where children are read, their rearrangements are read as their reorderings. -/
theorem exists_couples {reads : Value → Rule → Prop} {pairs : List (Value × Value)}
    {rules : List Rule} (each : ∀ pair ∈ pairs, ∀ rule, reads pair.1 rule →
      ∃ other, reads pair.2 other ∧ Reordered rule other)
    (row : List.Forall₂ reads (pairs.map Prod.fst) rules) :
    ∃ couples : List (Rule × Rule), couples.map Prod.fst = rules ∧
      List.Forall₂ reads (pairs.map Prod.snd) (couples.map Prod.snd) ∧
      ∀ couple ∈ couples, Reordered couple.1 couple.2 := by
  induction pairs generalizing rules with
  | nil =>
    cases row
    exact ⟨[], rfl, .nil, by simp⟩
  | cons pair rest ih =>
    rw [List.forall_mem_cons] at each
    cases row with
    | @cons _ rule _ others here later =>
      obtain ⟨other, read, reordered⟩ := each.1 rule here
      obtain ⟨couples, rfl, reads', below⟩ := ih each.2 later
      exact ⟨(rule, other) :: couples, rfl, .cons read reads',
        List.forall_mem_cons.mpr ⟨reordered, below⟩⟩

/-- What is rearranged is read as the same tree in another order. -/
theorem Rearranged.reads {written other : Value} (rearranged : Rearranged written other)
    {levels : Nat} {rule : Rule} (read : Reads (parseNode [] levels []) written rule) :
    ∃ reordered, Reads (parseNode [] levels []) other reordered ∧ Reordered rule reordered := by
  induction rearranged generalizing levels rule with
  | same written => exact ⟨rule, read, .refl rule⟩
  | @composite entries pairs children listed each order ih =>
    have listed' := hasChildren_withChildren rfl listed children
    obtain ⟨_, _, mapping, worded, -⟩ := id listed
    obtain rfl := Value.dict.inj mapping
    obtain ⟨word, found⟩ := Option.isSome_iff_exists.mp worded
    have found' : Value.lookup (withChildren entries children) "condition" = some word := by
      simp [lookup_withChildren, found]
    obtain ⟨condition, lower, rules, named, rfl, rfl, row⟩ :=
      (reads_composite_iff found listed).mp read
    obtain ⟨couples, rfl, reads, below⟩ := exists_couples (fun pair among rule => ih pair among) row
    obtain ⟨rules, reads', permuted⟩ := List.perm_comp_forall₂ order.symm reads
    exact ⟨.composite condition rules,
      (reads_composite_iff found' listed').mpr ⟨condition, lower, rules, named, rfl, rfl, reads'⟩,
      .composite condition below permuted.symm⟩

/-- A rearranged text that is read is, in both orders, read as one tree in two orders. -/
theorem Rearranged.matchesWritten {written other : Value} (rearranged : Rearranged written other)
    {rule : Rule} (read : parseShared [] written rootPath = .ok rule) (registry : Registry)
    (subject : Subject) :
    ∃ reordered, Reordered rule reordered ∧
      Rule.matchesWritten registry [] written subject = evaluate registry subject rule ∧
      Rule.matchesWritten registry [] other subject = evaluate registry subject reordered := by
  obtain ⟨rule, referring, rfl⟩ := parseShared_ok_iff.mp read
  obtain ⟨reordered, again, same⟩ := rearranged.reads (parseNode_elsewhere referring)
  have read' : parseShared [] other rootPath = .ok (reordered.exposed []) :=
    parseShared_ok_iff.mpr ⟨reordered, again rootPath, rfl⟩
  exact ⟨reordered.exposed [], same.exposed [], matchesWritten_of_ok read registry subject,
    matchesWritten_of_ok read' registry subject⟩

/-- Neither a tree nor a written rule changes its verdict with the order of the children of its
composites: an error may come or go, but not where no leaf of the tree fails. -/
theorem matchesWritten_reordered (registry : Registry) (subject : Subject) :
    (∀ store rule other, Reordered rule other →
      Compatible (matchesWritten registry store (.rule rule) subject)
        (matchesWritten registry store (.rule other) subject) ∧
      (IsSafe registry subject (rule.exposed store) →
        ∃ verdict, matchesWritten registry store (.rule rule) subject = .ok verdict ∧
          matchesWritten registry store (.rule other) subject = .ok verdict)) ∧
    (∀ written other, Rearranged written other →
      Compatible (matchesWritten registry [] written subject)
        (matchesWritten registry [] other subject) ∧
      ∀ rule, parseShared [] written rootPath = .ok rule → IsSafe registry subject rule →
        ∃ verdict, matchesWritten registry [] written subject = .ok verdict ∧
          matchesWritten registry [] other subject = .ok verdict) := by
  constructor
  · intro store rule other reordered
    have exposed := reordered.exposed store
    rw [matchesWritten_built, matchesWritten_built]
    exact ⟨exposed.compatible, exposed.evaluate_safe⟩
  · intro written other rearranged
    constructor
    · cases read : parseShared [] written rootPath with
      | error e =>
        intro verdict verdict' first
        cases (matchesWritten_of_error read registry subject).symm.trans first
      | ok rule =>
        obtain ⟨reordered, same, here, there⟩ := rearranged.matchesWritten read registry subject
        rw [here, there]
        exact same.compatible
    · intro rule read safe
      obtain ⟨reordered, same, here, there⟩ := rearranged.matchesWritten read registry subject
      rw [here, there]
      exact same.evaluate_safe safe

/-- `nested` with the children of both its composites the other way round. -/
def turned : Rule := .composite .all [
  .leaf (.word "name") .less (.text "B"),
  .composite .any [
    .leaf (.word "visits") .greater (.int 0),
    .leaf (.word "name") .contains (.text "Grace")]]

/-- A leaf that looks for a part of the name. -/
def namedLeaf (part : String) : Value :=
  .record [("field", .text "name"), ("operator", .text "contains"), ("value", .text part)]

/-- Either of two parts of the name. -/
def either (first second : String) : Value :=
  .record [("condition", .text "OR"), ("rules", .list [namedLeaf first, namedLeaf second])]

theorem nested_turned_alike :
    Reordered nested turned ∧ Rearranged (either "Grace" "Ada") (either "Ada" "Grace") ∧
    (∃ verdict, matchesWritten Registry.standard [] (.rule nested) visitor.subject = .ok verdict ∧
      matchesWritten Registry.standard [] (.rule turned) visitor.subject = .ok verdict) ∧
    ∃ verdict,
      matchesWritten Registry.standard [] (either "Grace" "Ada") visitor.subject = .ok verdict ∧
      matchesWritten Registry.standard [] (either "Ada" "Grace") visitor.subject = .ok verdict := by
  have inner := Reordered.of_perm .any (.swap (.leaf (.word "visits") .greater (.int 0))
    (.leaf (.word "name") .contains (.text "Grace")) [])
  have last := Reordered.refl (.leaf (.word "name") .less (.text "B"))
  have reordered : Reordered nested turned :=
    @Reordered.composite .all [(_, _), (_, _)] _ (by simp [inner, last]) (.swap _ _ [])
  have rearranged : Rearranged (either "Grace" "Ada") (either "Ada" "Grace") :=
    @Rearranged.composite _
      [(namedLeaf "Grace", namedLeaf "Grace"), (namedLeaf "Ada", namedLeaf "Ada")] _
      ⟨_, _, rfl, rfl, rfl, .inl rfl⟩ (by simp [Rearranged.same]) (.swap _ _ [])
  have safe : IsSafe Registry.standard visitor.subject (.composite .all [
      .composite .any [
        .leaf (.word "name") .contains (.text "Grace"),
        .leaf (.word "visits") .greater (.int 0)],
      .leaf (.word "name") .less (.text "B")]) := by
    simp only [isSafe_composite_iff, List.forall_mem_cons, isSafe_leaf_iff]
    exact ⟨⟨⟨false, rfl⟩, ⟨true, rfl⟩, nofun⟩, ⟨true, rfl⟩, nofun⟩
  have safe' : IsSafe Registry.standard visitor.subject (.composite .any [
      .leaf (.word "name") .contains (.text "Grace"),
      .leaf (.word "name") .contains (.text "Ada")]) := by
    simp only [isSafe_composite_iff, List.forall_mem_cons, isSafe_leaf_iff]
    exact ⟨⟨false, rfl⟩, ⟨true, rfl⟩, nofun⟩
  exact ⟨reordered, rearranged,
    ((matchesWritten_reordered _ _).1 [] nested turned reordered).2 safe,
    ((matchesWritten_reordered _ _).2 _ _ rearranged).2 _ rfl safe'⟩

/-- A field that does not exist is not reached behind a leaf that decides. -/
example :
    matchesWritten Registry.standard [] (.rule (.composite .any [
      .leaf (.word "visits") .greater (.int 0), .leaf (.word "rank") .greater (.int 0)]))
      visitor.subject = .ok true ∧
    matchesWritten Registry.standard [] (.rule (.composite .any [
      .leaf (.word "rank") .greater (.int 0), .leaf (.word "visits") .greater (.int 0)]))
      visitor.subject = .error (.rule ⟨.unknownField (.text "rank"), none⟩) :=
  ⟨rfl, rfl⟩

end Outreach.Rule
