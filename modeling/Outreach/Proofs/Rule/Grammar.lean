import Mathlib
import Outreach.Rule.Parser

/-! The grammar of written rules, said node by node. A node is known by its address: the positions
that lead to it through the rule lists, from the root down. Its local check looks at the node and
at the number of composites above it, never at other nodes. -/

/-! ### Letters of both cases

Two texts that fold to the same capitals fold to the same small letters, so it does not matter which
way a reader folds them. -/

namespace Outreach.Text

/-- The two texts differ at most in the case of ASCII letters. -/
def SameLetters (first second : String) : Prop :=
  first.toList.map Char.toLower = second.toList.map Char.toLower

theorem toUpper_eq_iff (c d : Char) : c.toUpper = d.toUpper ↔ c.toLower = d.toLower := by
  constructor
  · intro same
    rw [← Char.toLower_toUpper_eq_toLower c, same, Char.toLower_toUpper_eq_toLower]
  · intro same
    rw [← Char.toUpper_toLower_eq_toUpper c, same, Char.toUpper_toLower_eq_toUpper]

theorem map_toUpper_eq_iff (first second : List Char) :
    first.map Char.toUpper = second.map Char.toUpper ↔
      first.map Char.toLower = second.map Char.toLower := by
  induction first generalizing second with
  | nil => cases second <;> simp
  | cons c rest ih =>
    cases second with
    | nil => simp
    | cons d others => simp only [List.map_cons, List.cons.injEq, toUpper_eq_iff, ih]

/-- Folding to capitals tells exactly the letters of a word in capitals. -/
theorem sameLetters_iff {word : String} (capitals : word.toList.map Char.toUpper = word.toList)
    (text : String) :
    SameLetters text word ↔ String.ofList (text.toList.map Char.toUpper) = word := by
  rw [SameLetters, ← map_toUpper_eq_iff, capitals]
  constructor
  · intro same
    rw [same, String.ofList_toList]
  · intro same
    rw [← same, String.toList_ofList]

end Outreach.Text

/-! ### Nodes -/

namespace Outreach.Rule
open RuleError (Kind)

/-- The children of a composite, a mapping with a condition, stand in the list or tuple under
`rules`. A mapping without condition is a leaf: what it may hold under `rules` is no node. -/
def HasChildren (store : ValueStore) (value : Value) (children : List Value) : Prop :=
  ∃ entries held, value.resolve store = .dict entries ∧
    (Value.lookup entries "condition").isSome ∧ Value.lookup entries "rules" = some held ∧
    (held.resolve store = .list children ∨ held.resolve store = .tuple children)

/-- The node at an address of a written rule. -/
inductive Reaches (store : ValueStore) : Value → List Nat → Value → Prop where
  | root (value : Value) : Reaches store value [] value
  | child {value child node : Value} {children : List Value} {index : Nat} {address : List Nat}
      (composite : HasChildren store value children) (placed : children[index]? = some child)
      (reached : Reaches store child address node) : Reaches store value (index :: address) node

/-- Pre-order: a node comes before all below it, and with all below it before its later siblings. -/
def Precedes (first second : List Nat) : Prop := List.Lex (· < ·) first second

/-- The place of an address, as errors name it. -/
def place (path : String) (address : List Nat) : String :=
  path ++ String.join (address.map fun index => ".rules[" ++ toString index ++ "]")

def NamesCondition (word : Value) : Prop :=
  ∃ text, word.asText? = some text ∧ (Text.SameLetters text "AND" ∨ Text.SameLetters text "OR")

def NamesField (field : Value) : Prop := ∃ text, field.asText? = some text ∧ text ≠ ""

def NamesOperator (token : Value) : Prop := ∃ operator : Operator, token.asText? = some operator.sign

/-- The mapping has all three keys of a leaf, and its field is named. -/
def HasLeafParts (entries : List (Value × Value)) (operator : Value) : Prop :=
  ∃ field value, Value.lookup entries "field" = some field ∧
    Value.lookup entries "operator" = some operator ∧
    Value.lookup entries "value" = some value ∧ NamesField field

/-- The local check of a node below the given number of composites. -/
inductive WellFormed (store : ValueStore) (ancestors : Nat) (node : Value) : Prop where
  | composite {entries : List (Value × Value)} {word : Value} {children : List Value}
      (mapping : node.resolve store = .dict entries)
      (conditioned : Value.lookup entries "condition" = some word) (named : NamesCondition word)
      (listed : HasChildren store node children) (room : ancestors < maxDepth) :
      WellFormed store ancestors node
  | leaf {entries : List (Value × Value)} {operator : Value}
      (mapping : node.resolve store = .dict entries)
      (unconditioned : Value.lookup entries "condition" = none)
      (parts : HasLeafParts entries operator) (known : NamesOperator (operator.exposed store)) :
      WellFormed store ancestors node

/-- A leaf with all its parts, of which the operator alone is unknown. -/
def OnlyOperatorWrong (store : ValueStore) (node : Value) : Prop :=
  ∃ entries operator, node.resolve store = .dict entries ∧
    Value.lookup entries "condition" = none ∧ HasLeafParts entries operator ∧
    ¬NamesOperator (operator.exposed store)

/-- A node that fails its local check, with the kind of error that it deserves. -/
structure Offends (store : ValueStore) (ancestors : Nat) (node : Value) (kind : Kind) : Prop where
  defect : ¬WellFormed store ancestors node
  operator : OnlyOperatorWrong store node → kind = .unsupportedOperator
  other : ¬OnlyOperatorWrong store node → kind = .malformed

/-- A rule that has been read may stand in the place of a node. -/
def IsReady (store : ValueStore) (node : Value) : Prop := ∃ rule, node.resolve store = .rule rule

theorem HasChildren.unique {store : ValueStore} {value : Value} {first second : List Value}
    (one : HasChildren store value first) (other : HasChildren store value second) :
    first = second := by
  obtain ⟨entries, held, mapping, -, listed, items⟩ := one
  obtain ⟨entries', held', mapping', -, listed', items'⟩ := other
  obtain rfl := Value.dict.inj (mapping.symm.trans mapping')
  obtain rfl := Option.some.inj (listed.symm.trans listed')
  rcases items with items | items <;> rcases items' with items' | items' <;>
    simpa using items.symm.trans items'

theorem reaches_nil_iff {store : ValueStore} {value node : Value} :
    Reaches store value [] node ↔ node = value := by
  constructor
  · intro reached
    cases reached
    rfl
  · rintro rfl
    exact .root _

theorem Reaches.of_cons {store : ValueStore} {value node : Value} {children : List Value}
    {index : Nat} {address : List Nat} (composite : HasChildren store value children)
    (reached : Reaches store value (index :: address) node) :
    ∃ child, children[index]? = some child ∧ Reaches store child address node := by
  cases reached with
  | child composite' placed below =>
    rw [composite'.unique composite] at placed
    exact ⟨_, placed, below⟩

theorem WellFormed.of_conditioned {store : ValueStore} {ancestors : Nat} {node word : Value}
    {entries : List (Value × Value)} (mapping : node.resolve store = .dict entries)
    (conditioned : Value.lookup entries "condition" = some word)
    (wellFormed : WellFormed store ancestors node) :
    NamesCondition word ∧ (∃ children, HasChildren store node children) ∧ ancestors < maxDepth := by
  cases wellFormed with
  | composite mapping' conditioned' named listed room =>
    obtain rfl := Value.dict.inj (mapping.symm.trans mapping')
    obtain rfl := Option.some.inj (conditioned.symm.trans conditioned')
    exact ⟨named, ⟨_, listed⟩, room⟩
  | leaf mapping' unconditioned =>
    obtain rfl := Value.dict.inj (mapping.symm.trans mapping')
    simp [conditioned] at unconditioned

theorem WellFormed.of_unconditioned {store : ValueStore} {ancestors : Nat} {node : Value}
    {entries : List (Value × Value)} (mapping : node.resolve store = .dict entries)
    (unconditioned : Value.lookup entries "condition" = none)
    (wellFormed : WellFormed store ancestors node) :
    ∃ operator, HasLeafParts entries operator ∧ NamesOperator (operator.exposed store) := by
  cases wellFormed with
  | composite mapping' conditioned =>
    obtain rfl := Value.dict.inj (mapping.symm.trans mapping')
    simp [unconditioned] at conditioned
  | leaf mapping' _ parts known =>
    obtain rfl := Value.dict.inj (mapping.symm.trans mapping')
    exact ⟨_, parts, known⟩

theorem OnlyOperatorWrong.of_dict {store : ValueStore} {node : Value}
    {entries : List (Value × Value)} (mapping : node.resolve store = .dict entries)
    (wrong : OnlyOperatorWrong store node) :
    Value.lookup entries "condition" = none ∧ ∃ operator, HasLeafParts entries operator ∧
      ¬NamesOperator (operator.exposed store) := by
  obtain ⟨entries', operator, mapping', unconditioned, parts, unknown⟩ := wrong
  obtain rfl := Value.dict.inj (mapping.symm.trans mapping')
  exact ⟨unconditioned, operator, parts, unknown⟩

theorem HasLeafParts.unique {entries : List (Value × Value)} {first second : Value}
    (one : HasLeafParts entries first) (other : HasLeafParts entries second) : first = second := by
  obtain ⟨_, _, -, found, -⟩ := one
  obtain ⟨_, _, -, found', -⟩ := other
  exact Option.some.inj (found.symm.trans found')

/-- No node is a rule that has been read before. -/
def IsUnread (store : ValueStore) (value : Value) : Prop :=
  ∀ address node, Reaches store value address node → ¬IsReady store node

theorem IsUnread.root {store : ValueStore} {value : Value} (unread : IsUnread store value) :
    ¬IsReady store value :=
  unread [] value (.root value)

theorem IsUnread.child {store : ValueStore} {value child : Value} {children : List Value}
    (unread : IsUnread store value) (composite : HasChildren store value children)
    (member : child ∈ children) : IsUnread store child := by
  intro address node reached
  obtain ⟨index, placed⟩ := List.getElem?_of_mem member
  exact unread (index :: address) node (.child composite placed reached)

theorem IsUnread.of_leaf {store : ValueStore} {value : Value} (unread : ¬IsReady store value)
    (leaf : ∀ children, ¬HasChildren store value children) : IsUnread store value := by
  intro address node reached
  cases reached with
  | root => exact unread
  | child composite => exact absurd composite (leaf _)

theorem place_nil (path : String) : place path [] = path := by
  simp [place]

theorem place_cons (path : String) (index : Nat) (address : List Nat) :
    place path (index :: address) = place (childPath path index) address := by
  simp [place, childPath, String.append_assoc]

theorem conditionOf?_isSome_iff (word : Value) :
    (conditionOf? word).isSome ↔ NamesCondition word := by
  have capitals (c : Condition) : c.word.toList.map Char.toUpper = c.word.toList := by
    cases c <;> decide
  have all := Text.sameLetters_iff (capitals .all)
  have any := Text.sameLetters_iff (capitals .any)
  simp only [Condition.word] at all any
  cases letters : word.asText? with
  | none => simp [conditionOf?, NamesCondition, letters]
  | some text =>
    simp only [conditionOf?, NamesCondition, letters, Option.bind_some, Option.some.injEq,
      exists_eq_left', all, any, Condition.ofWordFolded?, Condition.ofWord?, Condition.word]
    grind

theorem operatorOf_ok {path : Option String} {token : Value} {operator : Operator}
    (read : operatorOf path token = .ok operator) : NamesOperator token := by
  unfold operatorOf at read
  cases letters : token.asText? with
  | none => simp [letters] at read
  | some text =>
    cases found : Operator.ofSign? text with
    | none => simp [letters, found] at read
    | some op => exact ⟨op, by rw [letters, Operator.sign_of_ofSign? found]⟩

theorem operatorOf_error {path : Option String} {token : Value} {e : RuleError}
    (refused : operatorOf path token = .error e) :
    e = ⟨.unsupportedOperator token, path⟩ ∧ ¬NamesOperator token := by
  unfold operatorOf at refused
  split at refused
  next => cases refused
  next unknown =>
    refine ⟨by cases refused; rfl, ?_⟩
    rintro ⟨operator, letters⟩
    simp [letters, Operator.ofSign?_sign] at unknown

end Outreach.Rule
