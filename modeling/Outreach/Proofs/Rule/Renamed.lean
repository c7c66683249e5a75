import Outreach.Proofs.Rule.Complement
import Outreach.Proofs.Rule.Declared
import Outreach.Proofs.Rule.Unfolded

/-! Fields of customers have two names, the one of written rules and the one of the attribute. Rules
may call a field by either, leaf by leaf: both names lead to one field, and a name shows only in the
wording of an error. So other names leave the verdict, or the class of the error. -/

namespace Outreach.Rule

/-- Two names of one field of customers. -/
def IsAlias (name other : String) : Prop :=
  ∃ field ∈ Registry.customerFields,
    (name = field.name ∧ other = field.property) ∨ (name = field.property ∧ other = field.name)

/-- The same tree, but for the names by which its leaves call their fields. -/
inductive Renamed : Rule → Rule → Prop where
  | same (name : FieldName) (operator : Operator) (value : Value) :
      Renamed (.leaf name operator value) (.leaf name operator value)
  | other {name other : String} (alike : IsAlias name other) (operator : Operator) (value : Value) :
      Renamed (.leaf (.word name) operator value) (.leaf (.word other) operator value)
  | composite (condition : Condition) (pairs : List (Rule × Rule))
      (each : ∀ pair ∈ pairs, Renamed pair.1 pair.2) :
      Renamed (.composite condition (pairs.map Prod.fst))
        (.composite condition (pairs.map Prod.snd))

/-- The entries of a mapping with another name of its field. -/
def withName (entries : List (Value × Value)) (name : String) : List (Value × Value) :=
  entries.map fun entry =>
    (entry.1, if entry.1.asText? = some "field" then .text name else entry.2)

/-- The same written rule, but for the names by which its leaves call their fields. -/
inductive Respelled : Value → Value → Prop where
  | same (written : Value) : Respelled written written
  | leaf {entries : List (Value × Value)} {name other : String}
      (unconditioned : Value.lookup entries "condition" = none)
      (held : Value.lookup entries "field" = some (.text name)) (alike : IsAlias name other) :
      Respelled (.dict entries) (.dict (withName entries other))
  | composite {entries : List (Value × Value)} {pairs : List (Value × Value)}
      (listed : HasChildren [] (.dict entries) (pairs.map Prod.fst))
      (each : ∀ pair ∈ pairs, Respelled pair.1 pair.2) :
      Respelled (.dict entries) (.dict (withChildren entries (pairs.map Prod.snd)))

/-- Two answers of one class: the same verdict, or two errors of one class. -/
inductive SameClass : Answer → Answer → Prop where
  | verdict (b : Bool) : SameClass (.ok b) (.ok b)
  | error {e other : EvaluationError} (alike : e.Alike other) : SameClass (.error e) (.error other)

theorem SameClass.refl (answer : Answer) : SameClass answer answer := by
  cases answer with
  | ok b => exact .verdict b
  | error e => exact .error e.alike_refl

/-! ### Leaves -/

theorem customerFields_resolve {field : Field} (member : field ∈ Registry.customerFields) :
    List.lookup field.name Registry.standard = some field ∧
      List.lookup field.property Registry.standard = some field := by
  have all : ∀ field ∈ Registry.customerFields,
      List.lookup field.name Registry.standard = some field ∧
        List.lookup field.property Registry.standard = some field := by decide
  exact all field member

theorem IsAlias.resolve {name other : String} (alike : IsAlias name other) :
    Registry.standard.resolve (.text name) = Registry.standard.resolve (.text other) := by
  obtain ⟨field, member, ⟨rfl, rfl⟩ | ⟨rfl, rfl⟩⟩ := alike <;>
    simp [Registry.resolve, Value.asText?, customerFields_resolve member]

theorem IsAlias.nonempty {name other : String} (alike : IsAlias name other) :
    name.isEmpty = false ∧ other.isEmpty = false := by
  have all : ∀ field ∈ Registry.customerFields,
      field.name.isEmpty = false ∧ field.property.isEmpty = false := by decide
  obtain ⟨field, member, ⟨rfl, rfl⟩ | ⟨rfl, rfl⟩⟩ := alike
  · exact all field member
  · exact (all field member).symm

theorem negated_sameClass {first second : Answer} (same : SameClass first second) :
    SameClass (negated first) (negated second) := by
  cases same with
  | verdict b => exact .verdict !b
  | error alike => exact .error alike

section
variable (operator : Operator) (name other : String) (customer rule : Value)

theorem compareBy_sameClass :
    SameClass (compareBy operator name customer rule) (compareBy operator other customer rule) := by
  unfold compareBy
  split
  next => exact .error (Eq.refl RuleError.Kind.typeMismatch)
  next => exact .refl _
  next => exact .refl _

theorem containment_sameClass :
    SameClass (containment name customer rule) (containment other customer rule) := by
  unfold containment
  split
  next =>
    split
    next => exact .refl _
    next => exact .error (Eq.refl RuleError.Kind.typeMismatch)
  next =>
    split
    next => exact .refl _
    next => exact .refl _
    next => exact .refl _
    next => exact .error (Eq.refl RuleError.Kind.typeMismatch)

/-- The name of the field shows only in the wording of an error. -/
theorem applyOperator_sameClass :
    SameClass (applyOperator operator name customer rule)
      (applyOperator operator other customer rule) := by
  cases operator with
  | greater | less | atLeast | atMost => exact compareBy_sameClass _ name other customer rule
  | equal | unequal => exact .refl _
  | contains => exact containment_sameClass name other customer rule
  | notContains => exact negated_sameClass (containment_sameClass name other customer rule)

end

theorem evaluateLeaf_sameClass {registry : Registry} {name other : FieldName}
    (resolve : registry.resolve (.ofFieldName name) = registry.resolve (.ofFieldName other))
    (operator : Operator) (value : Value) (subject : Subject) :
    SameClass (evaluateLeaf registry name operator value subject)
      (evaluateLeaf registry other operator value subject) := by
  unfold evaluateLeaf
  rw [resolve]
  split
  next => exact .refl _
  next =>
    split
    next => exact .refl _
    next =>
      split
      next => exact .refl _
      next => exact applyOperator_sameClass operator name.display other.display _ _

/-! ### Trees -/

/-- Answers of one class one by one make sequences of one class. -/
theorem sequence_sameClass (neutral : Bool) {answers others : List Answer}
    (same : List.Forall₂ SameClass answers others) :
    SameClass (sequence neutral answers) (sequence neutral others) := by
  induction same with
  | nil => exact .verdict neutral
  | cons first _ ih =>
    cases first with
    | error alike => exact .error alike
    | verdict b =>
      by_cases passed : b = neutral
      · rw [passed, sequence_cons_neutral, sequence_cons_neutral]
        exact ih
      · rw [sequence_cons_decisive (by simpa using passed),
          sequence_cons_decisive (by simpa using passed)]
        exact .verdict b

theorem Renamed.evaluate {rule other : Rule} (renamed : Renamed rule other) (subject : Subject) :
    SameClass (Rule.evaluate Registry.standard subject rule)
      (Rule.evaluate Registry.standard subject other) := by
  induction renamed with
  | same name operator value => exact .refl _
  | other alike operator value =>
    exact evaluateLeaf_sameClass alike.resolve operator value subject
  | composite condition pairs each ih =>
    rw [evaluate_composite, evaluate_composite]
    apply sequence_sameClass
    rw [List.map_map, List.map_map, List.forall₂_map_left_iff, List.forall₂_map_right_iff,
      List.forall₂_same]
    exact ih

theorem Renamed.exposed {rule other : Rule} (renamed : Renamed rule other) (store : ValueStore) :
    Renamed (rule.exposed store) (other.exposed store) := by
  induction renamed with
  | same name operator value => exact .same name operator _
  | other alike operator value => exact .other alike operator _
  | composite condition pairs each ih =>
    have both := Renamed.composite condition
      (pairs.map fun pair => (pair.1.exposed store, pair.2.exposed store))
      (List.forall_mem_map.mpr ih)
    simpa [Rule.exposed, exposedAll_eq_map, Function.comp_def] using both

/-! ### Written rules -/

/-- Two readings of one kind: the same refusal, or one tree under two sets of names. -/
inductive SameReading {α : Type} (related : α → α → Prop) :
    Except RuleError α → Except RuleError α → Prop where
  | refused (e : RuleError) : SameReading related (.error e) (.error e)
  | read {first second : α} (renamed : related first second) :
      SameReading related (.ok first) (.ok second)

theorem Renamed.refl (rule : Rule) : Renamed rule rule := by
  induction rule using treeInduction with
  | leaf name operator value => exact .same name operator value
  | composite condition rules ih =>
    have both := Renamed.composite condition (rules.map fun part => (part, part))
      (List.forall_mem_map.mpr ih)
    simpa [Function.comp_def] using both

theorem SameReading.refl (reading : Except RuleError Rule) :
    SameReading Renamed reading reading := by
  cases reading with
  | error e => exact .refused e
  | ok rule => exact .read (.refl rule)

theorem lookup_withName (entries : List (Value × Value)) (name key : String) :
    Value.lookup (withName entries name) key =
      (Value.lookup entries key).map fun held => if key = "field" then .text name else held := by
  have found : (withName entries name).find? (fun entry => entry.1.asText? == some key) =
      (entries.find? fun entry => entry.1.asText? == some key).map fun entry =>
        (entry.1, if entry.1.asText? = some "field" then .text name else entry.2) :=
    List.find?_map
  unfold Value.lookup
  rw [found]
  cases held : entries.find? fun entry => entry.1.asText? == some key with
  | none => rfl
  | some entry =>
    have named : entry.1.asText? = some key := by simpa using List.find?_some held
    simp [named]

theorem parseLeaf_missing {entries : List (Value × Value)}
    (absent : Value.lookup entries "operator" = none ∨ Value.lookup entries "value" = none)
    (store : ValueStore) (path : String) :
    parseLeaf store entries path = .error
      ⟨.missingKeys (leafKeys.filter fun key => (Value.lookup entries key).isNone), some path⟩ := by
  unfold parseLeaf
  rcases absent with absent | absent <;> simp [absent]

theorem parseLeaf_renamed {entries : List (Value × Value)} {name other : String}
    (held : Value.lookup entries "field" = some (.text name)) (alike : IsAlias name other)
    (store : ValueStore) (path : String) :
    SameReading Renamed (parseLeaf store entries path)
      (parseLeaf store (withName entries other) path) := by
  obtain ⟨first, second⟩ := alike.nonempty
  have field : Value.lookup (withName entries other) "field" = some (.text other) := by
    simp [lookup_withName, held]
  have operator : Value.lookup (withName entries other) "operator" =
      Value.lookup entries "operator" := by simp [lookup_withName]
  have value : Value.lookup (withName entries other) "value" = Value.lookup entries "value" := by
    simp [lookup_withName]
  by_cases absent : Value.lookup entries "operator" = none ∨ Value.lookup entries "value" = none
  · rw [parseLeaf_missing absent, parseLeaf_missing (by rwa [operator, value])]
    simp only [lookup_withName, Option.isNone_map]
    exact .refused _
  · obtain ⟨⟨sign, heldOperator⟩, operand, heldValue⟩ :=
      (not_or.mp absent).imp Option.ne_none_iff_exists'.mp Option.ne_none_iff_exists'.mp
    rw [parseLeaf_named held heldOperator heldValue rfl first,
      parseLeaf_named field (operator.trans heldOperator) (value.trans heldValue) rfl second]
    cases operatorOf (some path) (sign.exposed store) with
    | error e => exact .refused e
    | ok op => exact .read (.other alike op operand)

/-- Children that are read alike one by one make rows that are read alike. -/
theorem parseEach_sameReading {parse other : Value → String → Except RuleError Rule}
    {pairs : List (Value × Value)}
    (each : ∀ pair ∈ pairs, ∀ path, SameReading Renamed (parse pair.1 path) (other pair.2 path))
    (path : String) (index : Nat) :
    SameReading (List.Forall₂ Renamed) (parseEach parse path index (pairs.map Prod.fst))
      (parseEach other path index (pairs.map Prod.snd)) := by
  induction pairs generalizing index with
  | nil => exact .read .nil
  | cons pair rest ih =>
    rw [List.forall_mem_cons] at each
    have here := each.1 (childPath path index)
    have later := ih each.2 (index + 1)
    simp only [List.map_cons, parseEach]
    generalize parse pair.1 (childPath path index) = first,
      other pair.2 (childPath path index) = second at here
    generalize parseEach parse path (index + 1) (rest.map Prod.fst) = row,
      parseEach other path (index + 1) (rest.map Prod.snd) = row' at later
    cases here with
    | refused e => exact .refused e
    | read renamed =>
      cases later with
      | refused e => exact .refused e
      | read others => exact .read (.cons renamed others)

theorem Renamed.of_forall₂ (condition : Condition) {rules others : List Rule}
    (each : List.Forall₂ Renamed rules others) :
    Renamed (.composite condition rules) (.composite condition others) := by
  have both := Renamed.composite condition (rules.zip others)
    fun pair member => List.forall₂_zip each member
  rwa [List.map_fst_zip each.length_eq.le, List.map_snd_zip each.length_eq.ge] at both

theorem SameReading.composite {row row' : Except RuleError (List Rule)}
    (same : SameReading (List.Forall₂ Renamed) row row') (condition : Condition) :
    SameReading Renamed (row.map (.composite condition)) (row'.map (.composite condition)) := by
  cases same with
  | refused e => exact .refused e
  | read each => exact .read (.of_forall₂ condition each)

theorem SameReading.exposed {first second : Except RuleError Rule}
    (same : SameReading Renamed first second) (store : ValueStore) :
    SameReading Renamed (first.map (Rule.exposed store)) (second.map (Rule.exposed store)) := by
  cases same with
  | refused e => exact .refused e
  | read renamed => exact .read (renamed.exposed store)

theorem Respelled.parseNode {written other : Value} (respelled : Respelled written other)
    (levels : Nat) (path : String) :
    SameReading Renamed (Rule.parseNode [] levels [] written path)
      (Rule.parseNode [] levels [] other path) := by
  induction respelled generalizing levels path with
  | same written => exact .refl _
  | @leaf entries name other unconditioned held alike =>
    have unconditioned' : Value.lookup (withName entries other) "condition" = none := by
      rw [lookup_withName, unconditioned]
      rfl
    rw [parseNode_leaf rfl unshared_of_dict unconditioned,
      parseNode_leaf rfl unshared_of_dict unconditioned']
    exact parseLeaf_renamed held alike [] path
  | @composite entries pairs listed each ih =>
    have listed' := hasChildren_withChildren rfl listed (pairs.map Prod.snd)
    obtain ⟨_, _, mapping, worded, -⟩ := id listed
    obtain rfl := Value.dict.inj mapping
    obtain ⟨word, found⟩ := Option.isSome_iff_exists.mp worded
    have found' : Value.lookup (withChildren entries (pairs.map Prod.snd)) "condition" =
        some word := by
      simp [lookup_withChildren, found]
    have items := (hasChildren_iff rfl found).mp listed
    have items' := (hasChildren_iff rfl found').mp listed'
    cases named : conditionOf? word with
    | none =>
      rw [parseNode_badCondition rfl unshared_of_dict found named,
        parseNode_badCondition rfl unshared_of_dict found' named]
      exact .refused _
    | some condition =>
      cases levels with
      | zero =>
        rw [parseNode_tooDeep rfl unshared_of_dict found named items,
          parseNode_tooDeep rfl unshared_of_dict found' named items']
        exact .refused _
      | succ lower =>
        rw [parseNode_composite rfl unshared_of_dict found named items,
          parseNode_composite rfl unshared_of_dict found' named items']
        exact (parseEach_sameReading (fun pair among => ih pair among lower) path 0).composite
          condition

theorem Renamed.matchesWritten {rule other : Rule} (renamed : Renamed rule other)
    (store : ValueStore) (subject : Subject) :
    SameClass (Rule.matchesWritten Registry.standard store (.rule rule) subject)
      (Rule.matchesWritten Registry.standard store (.rule other) subject) := by
  rw [matchesWritten_built, matchesWritten_built]
  exact (renamed.exposed store).evaluate subject

theorem Respelled.matchesWritten {written other : Value} (respelled : Respelled written other)
    (subject : Subject) :
    SameClass (Rule.matchesWritten Registry.standard [] written subject)
      (Rule.matchesWritten Registry.standard [] other subject) := by
  have reading : SameReading Renamed (parseShared [] written rootPath)
      (parseShared [] other rootPath) :=
    (respelled.parseNode maxDepth rootPath).exposed []
  unfold Rule.matchesWritten
  generalize parseShared [] written rootPath = first, parseShared [] other rootPath = second
    at reading
  cases reading with
  | refused e => exact .refl _
  | read renamed => exact renamed.evaluate subject

end Outreach.Rule
