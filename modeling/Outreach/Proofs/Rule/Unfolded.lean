import Outreach.Proofs.Rule.Cycle
import Outreach.Proofs.Rule.RoundTrip

/-! Written rules as graphs. A rule list may hold a mapping that stands elsewhere too, and one that
encloses it. Where no mapping comes to stand below itself the graph unfolds to a tree, and is read
as that tree is; otherwise it is refused. Reading goes down one level at a time and no further than
composites may be nested, so it ends on every graph.

A mapping is a composite, with a rule list, by its condition. What a mapping without a condition
holds under the name of the list is no part of the rule, and is never looked at. -/

namespace Outreach.Rule

/-! ### Unfolding -/

/-- The entries of a mapping with other children. -/
def withChildren (entries : List (Value × Value)) (children : List Value) : List (Value × Value) :=
  entries.map fun entry =>
    (entry.1, if entry.1.asText? = some "rules" then .list children else entry.2)

/-- The tree that a graph of rules unfolds to: every composite is written out wherever it stands,
with its children unfolded. -/
inductive Unfolds (store : ValueStore) : Value → Value → Prop where
  | composite {value : Value} {entries : List (Value × Value)} {pairs : List (Value × Value)}
      (mapping : value.resolve store = .dict entries)
      (listed : HasChildren store value (pairs.map Prod.fst))
      (each : ∀ pair ∈ pairs, Unfolds store pair.1 pair.2) :
      Unfolds store value (.dict (withChildren entries (pairs.map Prod.snd)))
  | leaf {value : Value} {entries : List (Value × Value)}
      (mapping : value.resolve store = .dict entries)
      (childless : ∀ children, ¬HasChildren store value children) :
      Unfolds store value (.dict entries)
  /-- A rule that has been read, or what is no rule. -/
  | other {value : Value} (other : ∀ entries, value.resolve store ≠ .dict entries) :
      Unfolds store value value

theorem lookup_withChildren (entries : List (Value × Value)) (children : List Value)
    (key : String) :
    Value.lookup (withChildren entries children) key =
      (Value.lookup entries key).map fun held =>
        if key = "rules" then .list children else held := by
  have found : (withChildren entries children).find? (fun entry => entry.1.asText? == some key) =
      (entries.find? fun entry => entry.1.asText? == some key).map fun entry =>
        (entry.1, if entry.1.asText? = some "rules" then .list children else entry.2) :=
    List.find?_map
  unfold Value.lookup
  rw [found]
  cases held : entries.find? fun entry => entry.1.asText? == some key with
  | none => rfl
  | some entry =>
    have named : entry.1.asText? = some key := by simpa using List.find?_some held
    simp [named]

theorem hasChildren_withChildren {store : ValueStore} {value : Value}
    {entries : List (Value × Value)} {old : List Value}
    (mapping : value.resolve store = .dict entries)
    (composite : HasChildren store value old) (children : List Value) :
    HasChildren store (.dict (withChildren entries children)) children := by
  obtain ⟨entries', held, mapping', conditioned, listed, -⟩ := composite
  obtain rfl := Value.dict.inj (mapping.symm.trans mapping')
  refine ⟨_, .list children, rfl, ?_, ?_, .inl rfl⟩
  · rw [lookup_withChildren, Option.isSome_map]
    exact conditioned
  · rw [lookup_withChildren, listed]
    rfl

theorem Unfolds.acc {store : ValueStore} {value tree : Value} (unfolds : Unfolds store value tree) :
    Acc (IsChild store) value := by
  induction unfolds with
  | composite mapping listed each ih =>
    constructor
    rintro child ⟨children, composite, member⟩
    rw [composite.unique listed] at member
    obtain ⟨pair, among, rfl⟩ := List.mem_map.mp member
    exact ih pair among
  | leaf mapping childless =>
    constructor
    rintro child ⟨children, composite, -⟩
    exact absurd composite (childless children)
  | other other =>
    constructor
    rintro child ⟨children, ⟨entries, held, mapping, -⟩, -⟩
    exact absurd mapping (other entries)

theorem exists_paired {related : Value → Value → Prop} {children : List Value}
    (each : ∀ child ∈ children, ∃ tree, related child tree) :
    ∃ pairs : List (Value × Value), pairs.map Prod.fst = children ∧
      ∀ pair ∈ pairs, related pair.1 pair.2 := by
  induction children with
  | nil => exact ⟨[], rfl, by simp⟩
  | cons child rest ih =>
    rw [List.forall_mem_cons] at each
    obtain ⟨tree, here⟩ := each.1
    obtain ⟨pairs, rfl, later⟩ := ih each.2
    exact ⟨(child, tree) :: pairs, rfl, List.forall_mem_cons.mpr ⟨here, later⟩⟩

/-- Where all walks end there is an unfolding. -/
theorem exists_unfolds {store : ValueStore} {value : Value} (ends : Acc (IsChild store) value) :
    ∃ tree, Unfolds store value tree := by
  induction ends with
  | intro value _ ih =>
    by_cases mapping : ∃ entries, value.resolve store = .dict entries
    · obtain ⟨entries, mapping⟩ := mapping
      by_cases parent : ∃ children, HasChildren store value children
      · obtain ⟨children, composite⟩ := parent
        obtain ⟨pairs, rfl, each⟩ := exists_paired fun child member =>
          ih child ⟨children, composite, member⟩
        exact ⟨_, .composite mapping composite each⟩
      · exact ⟨_, .leaf mapping fun children composite => parent ⟨children, composite⟩⟩
    · exact ⟨value, .other fun entries resolved => mapping ⟨entries, resolved⟩⟩

theorem map_snd_unique {related : Value → Value → Prop} {pairs others : List (Value × Value)}
    (first : pairs.map Prod.fst = others.map Prod.fst)
    (unique : ∀ pair ∈ pairs, ∀ tree, related pair.1 tree → pair.2 = tree)
    (each : ∀ pair ∈ others, related pair.1 pair.2) :
    pairs.map Prod.snd = others.map Prod.snd := by
  induction pairs generalizing others with
  | nil =>
    obtain rfl : others = [] := by simpa using first.symm
    rfl
  | cons pair rest ih =>
    cases others with
    | nil => cases first
    | cons other more =>
      rw [List.map_cons, List.map_cons, List.cons.injEq] at first
      rw [List.forall_mem_cons] at unique each
      have here : pair.2 = other.2 := unique.1 other.2 (first.1 ▸ each.1)
      rw [List.map_cons, List.map_cons, here, ih first.2 unique.2 each.2]

theorem Unfolds.unique {store : ValueStore} {value tree other : Value}
    (first : Unfolds store value tree) (second : Unfolds store value other) : tree = other := by
  induction first generalizing other with
  | composite mapping listed each ih =>
    cases second with
    | composite mapping' listed' each' =>
      obtain rfl := Value.dict.inj (mapping.symm.trans mapping')
      have same := map_snd_unique (listed.unique listed')
        (fun pair among tree unfolds => ih pair among unfolds) each'
      rw [same]
    | leaf mapping' childless => exact absurd listed (childless _)
    | other other => exact absurd mapping (other _)
  | leaf mapping childless =>
    cases second with
    | composite mapping' listed' each' => exact absurd listed' (childless _)
    | leaf mapping' childless' => rw [Value.dict.inj (mapping.symm.trans mapping')]
    | other other => exact absurd mapping (other _)
  | other other =>
    cases second with
    | composite mapping' listed' each' => exact absurd mapping' (other _)
    | leaf mapping' childless' => exact absurd mapping' (other _)
    | other other' => rfl

theorem existsUnique_unfolds_iff {store : ValueStore} {value : Value} :
    (∃! tree, Unfolds store value tree) ↔ ¬IsCyclic store value := by
  constructor
  · rintro ⟨tree, unfolds, -⟩
    exact not_isCyclic_of_acc unfolds.acc
  · intro forward
    obtain ⟨tree, unfolds⟩ := exists_unfolds (acc_of_not_isCyclic forward)
    exact ⟨tree, unfolds, fun other second => second.unique unfolds⟩

/-- No mapping of the rule is kept elsewhere, where it could be met a second time. -/
def IsTree (store : ValueStore) (value : Value) : Prop :=
  ∀ address node entries, Reaches store value address node → node.resolve store = .dict entries →
    node = .dict entries

theorem Unfolds.isTree {store : ValueStore} {value tree : Value}
    (unfolds : Unfolds store value tree) : IsTree store tree := by
  intro address node entries reached mapping
  induction unfolds generalizing address with
  | @composite value held pairs resolved listed each ih =>
    have parent := hasChildren_withChildren resolved listed (pairs.map Prod.snd)
    cases address with
    | nil =>
      obtain rfl := reaches_nil_iff.mp reached
      exact mapping
    | cons index address =>
      obtain ⟨child, placed, below⟩ := reached.of_cons parent
      obtain ⟨pair, among, rfl⟩ := List.mem_map.mp (List.mem_of_getElem? placed)
      exact ih pair among address below
  | @leaf value held resolved childless =>
    cases reached with
    | root => exact mapping
    | child parent =>
      obtain ⟨other, listed, same, conditioned, held, items⟩ := parent
      exact absurd ⟨other, listed, resolved.trans same, conditioned, held, items⟩ (childless _)
  | other other =>
    cases reached with
    | root => exact absurd mapping (other entries)
    | child parent =>
      obtain ⟨entries, held, resolved, -⟩ := parent
      exact absurd resolved (other entries)

/-! ### Reading what was unfolded -/

theorem parseEach_congr {parse other : Value → String → Except RuleError Rule}
    {pairs : List (Value × Value)}
    (same : ∀ pair ∈ pairs, ∀ path, parse pair.1 path = other pair.2 path) (path : String)
    (index : Nat) :
    parseEach parse path index (pairs.map Prod.fst) =
      parseEach other path index (pairs.map Prod.snd) := by
  induction pairs generalizing index with
  | nil => rfl
  | cons pair rest ih =>
    rw [List.forall_mem_cons] at same
    simp only [List.map_cons, parseEach, same.1, ih same.2]

theorem node_mapping {store : ValueStore} {value : Value} {identity : Option Nat}
    {entries : List (Value × Value)} (found : node store value = .mapping identity entries) :
    value.resolve store = .dict entries ∧ identity = identity? value := by
  have mapping : value.resolve store = .dict entries := by
    unfold node at found
    split at found
    next => cases found
    next entries resolved =>
      cases found
      exact resolved
    next => cases found
  refine ⟨mapping, ?_⟩
  rw [node_of_dict mapping] at found
  cases found
  rfl

theorem identity?_eq_some_iff {value : Value} {identity : Nat} :
    identity? value = some identity ↔ value = .shared identity := by
  cases value <;> simp [identity?]

/-- A mapping without children is read, or refused, for its entries alone. -/
theorem parseNode_childless {store : ValueStore} {enclosing : List Nat} {value : Value}
    {entries : List (Value × Value)} (mapping : value.resolve store = .dict entries)
    (fresh : ∀ identity ∈ enclosing, value ≠ .shared identity)
    (childless : ∀ children, ¬HasChildren store value children) (levels : Nat)
    (within : List Nat) (path : String) :
    parseNode store levels enclosing value path =
      parseNode store levels within (.dict entries) path := by
  cases conditioned : Value.lookup entries "condition" with
  | none =>
    rw [parseNode_leaf mapping fresh conditioned, parseNode_leaf rfl unshared_of_dict conditioned]
  | some word =>
    cases named : conditionOf? word with
    | none =>
      rw [parseNode_badCondition mapping fresh conditioned named,
        parseNode_badCondition rfl unshared_of_dict conditioned named]
    | some condition =>
      have unlisted : ruleList? store (Value.lookup entries "rules") = none := by
        rw [Option.eq_none_iff_forall_ne_some]
        intro children listed
        exact childless children ((hasChildren_iff mapping conditioned).mpr listed)
      rw [parseNode_noRuleList mapping fresh conditioned named unlisted,
        parseNode_noRuleList rfl unshared_of_dict conditioned named unlisted]

/-- Two mappings with one condition are read alike where their children are. -/
theorem parseNode_alike {store : ValueStore} {enclosing within : List Nat} {value other : Value}
    {entries others : List (Value × Value)} {pairs : List (Value × Value)}
    (mapping : value.resolve store = .dict entries) (mapping' : other.resolve store = .dict others)
    (fresh : ∀ identity ∈ enclosing, value ≠ .shared identity)
    (fresh' : ∀ identity ∈ within, other ≠ .shared identity)
    (listed : HasChildren store value (pairs.map Prod.fst))
    (listed' : HasChildren store other (pairs.map Prod.snd))
    (conditioned : Value.lookup others "condition" = Value.lookup entries "condition")
    {levels : Nat} (each : ∀ lower, levels = lower + 1 → ∀ pair ∈ pairs, ∀ path,
      parseNode store lower ((identity? value).toList ++ enclosing) pair.1 path =
        parseNode store lower ((identity? other).toList ++ within) pair.2 path) (path : String) :
    parseNode store levels enclosing value path = parseNode store levels within other path := by
  obtain ⟨entries', held, resolved, worded, -⟩ := id listed
  obtain rfl := Value.dict.inj (mapping.symm.trans resolved)
  obtain ⟨word, found⟩ := Option.isSome_iff_exists.mp worded
  have found' := conditioned.trans found
  have items := (hasChildren_iff mapping found).mp listed
  have items' := (hasChildren_iff mapping' found').mp listed'
  cases named : conditionOf? word with
  | none =>
    rw [parseNode_badCondition mapping fresh found named,
      parseNode_badCondition mapping' fresh' found' named]
  | some condition =>
    cases levels with
    | zero =>
      rw [parseNode_tooDeep mapping fresh found named items,
        parseNode_tooDeep mapping' fresh' found' named items']
    | succ lower =>
      rw [parseNode_composite mapping fresh found named items,
        parseNode_composite mapping' fresh' found' named items', parseEach_congr (each lower rfl)]

/-- A graph is read as the tree that it unfolds to. What encloses it does not matter as long as it
cannot be met again below. -/
theorem Unfolds.parseNode {store : ValueStore} {value tree : Value}
    (unfolds : Unfolds store value tree) {enclosing : List Nat}
    (fresh : ∀ identity ∈ enclosing, ∀ address, ¬Reaches store value address (.shared identity))
    (within : List Nat) (levels : Nat) (path : String) :
    parseNode store levels enclosing value path = Rule.parseNode store levels within tree path := by
  have new {value : Value} {enclosing : List Nat} (fresh : ∀ identity ∈ enclosing, ∀ address,
      ¬Reaches store value address (.shared identity)) :
      ∀ identity ∈ enclosing, value ≠ .shared identity :=
    fun identity member same => fresh identity member [] (same ▸ .root value)
  induction unfolds generalizing enclosing within levels path with
  | @composite value entries pairs mapping listed each ih =>
    have parent := hasChildren_withChildren mapping listed (pairs.map Prod.snd)
    have condition : Value.lookup (withChildren entries (pairs.map Prod.snd)) "condition" =
        Value.lookup entries "condition" := by
      rw [lookup_withChildren]
      simp
    refine parseNode_alike mapping rfl (new fresh) unshared_of_dict listed parent condition ?_ path
    intro lower _ pair among path
    refine ih pair among ?_ within lower path
    intro identity member address below
    obtain ⟨index, placed⟩ := List.getElem?_of_mem (List.mem_map_of_mem (f := Prod.fst) among)
    have back : Reaches store value (index :: address) (.shared identity) :=
      .child listed placed below
    rcases List.mem_append.mp member with own | outer
    · obtain rfl := identity?_eq_some_iff.mp (Option.mem_toList.mp own)
      exact not_reaches_self (Unfolds.composite mapping listed each).acc (by simp) back
    · exact fresh identity outer _ back
  | @leaf value entries mapping childless =>
    exact parseNode_childless mapping (new fresh) childless levels within path
  | @other value other =>
    unfold Rule.parseNode
    cases found : node store value with
    | ready rule => rfl
    | other kind => rfl
    | mapping identity entries => exact absurd (node_mapping found).1 (other entries)

theorem Unfolds.parseShared {store : ValueStore} {value tree : Value}
    (unfolds : Unfolds store value tree) (path : String) :
    parseShared store value path = Rule.parseShared store tree path := by
  unfold Rule.parseShared parseReferring
  rw [unfolds.parseNode (by simp) []]

/-! ### Where reading is refused -/

theorem parseEach_error {parse : Value → String → Except RuleError Rule} {path : String}
    {children : List Value} {index : Nat} {e : RuleError}
    (refused : parseEach parse path index children = .error e) :
    ∃ offset child, children[offset]? = some child ∧
      parse child (childPath path (index + offset)) = .error e := by
  induction children generalizing index with
  | nil => cases refused
  | cons child rest ih =>
    unfold parseEach at refused
    split at refused
    next e' here =>
      cases refused
      exact ⟨0, child, rfl, here⟩
    next rule _ =>
      split at refused
      next e' later =>
        cases refused
        obtain ⟨offset, culprit, placed, found⟩ := ih later
        rw [Nat.add_right_comm, Nat.add_assoc] at found
        exact ⟨offset + 1, culprit, placed, found⟩
      next => cases refused

theorem parseLeaf_error {store : ValueStore} {entries : List (Value × Value)} {path : String}
    {e : RuleError} (refused : parseLeaf store entries path = .error e) :
    e.path = some path ∧ e.cause ≠ .cyclic := by
  unfold parseLeaf at refused
  split at refused
  next =>
    split at refused
    next =>
      split at refused
      next =>
        cases refused
        exact ⟨rfl, by simp⟩
      next =>
        split at refused
        next => cases refused
        next unknown =>
          cases refused
          obtain ⟨rfl, -⟩ := operatorOf_error unknown
          exact ⟨rfl, by simp⟩
    next =>
      cases refused
      exact ⟨rfl, by simp⟩
  next =>
    cases refused
    exact ⟨rfl, by simp⟩

/-- A node is refused where it stands for what it is, for being enclosed by itself, or else for the
first of its children that is refused. -/
theorem parseNode_refusal {store : ValueStore} {levels : Nat} {enclosing : List Nat} {value : Value}
    {path : String} {e : RuleError}
    (refused : parseNode store levels enclosing value path = .error e) :
    (e.path = some path ∧ (e.cause = .cyclic → ∃ identity ∈ enclosing, value = .shared identity)) ∨
    ∃ lower children offset child, levels = lower + 1 ∧ HasChildren store value children ∧
      children[offset]? = some child ∧
      parseNode store lower ((identity? value).toList ++ enclosing) child
        (childPath path offset) = .error e := by
  unfold parseNode at refused
  cases found : node store value with
  | ready rule =>
    rw [found] at refused
    cases refused
  | other kind =>
    rw [found] at refused
    cases refused
    exact .inl ⟨rfl, by simp⟩
  | mapping identity entries =>
    obtain ⟨mapping, rfl⟩ := node_mapping found
    simp only [found] at refused
    split at refused
    next enclosed =>
      cases refused
      cases own : identity? value with
      | none => simp [own] at enclosed
      | some identity =>
        have member : identity ∈ enclosing := by simpa [own] using enclosed
        exact .inl ⟨rfl, fun _ => ⟨identity, member, identity?_eq_some_iff.mp own⟩⟩
    next =>
      split at refused
      next =>
        obtain ⟨placed, other⟩ := parseLeaf_error refused
        exact .inl ⟨placed, fun cyclic => absurd cyclic other⟩
      next word conditioned =>
        split at refused
        next =>
          cases refused
          exact .inl ⟨rfl, by simp⟩
        next condition _ =>
          split at refused
          next =>
            cases refused
            exact .inl ⟨rfl, by simp⟩
          next children listed =>
            split at refused
            next =>
              cases refused
              exact .inl ⟨rfl, by simp⟩
            next lower =>
              split at refused
              next e' row =>
                cases refused
                obtain ⟨offset, child, placed, culprit⟩ := parseEach_error row
                rw [Nat.zero_add] at culprit
                exact .inr ⟨lower, children, offset, child, rfl,
                  (hasChildren_iff mapping conditioned).mpr listed, placed, culprit⟩
              next => cases refused

/-- The node that is refused stands where the error says, no more levels down than are left. It is
said to be cyclic only if it encloses the rule that is read or stands below itself in it. -/
theorem parseNode_error {store : ValueStore} {levels : Nat} {enclosing : List Nat} {value : Value}
    {path : String} {e : RuleError}
    (refused : parseNode store levels enclosing value path = .error e) :
    ∃ address node, Reaches store value address node ∧ address.length ≤ levels ∧
      e.path = some (place path address) ∧
      (e.cause = .cyclic → (∃ identity ∈ enclosing, node = .shared identity) ∨
        ∃ above below, address = above ++ below ∧ below ≠ [] ∧ Reaches store value above node) := by
  induction levels using Nat.strongRecOn generalizing enclosing value path with
  | ind levels ih =>
    rcases parseNode_refusal refused with ⟨placed, cyclic⟩ |
      ⟨lower, children, offset, child, rfl, composite, placed, culprit⟩
    · refine ⟨[], value, .root value, Nat.zero_le levels, by rw [placed, place_nil], ?_⟩
      exact fun cause => .inl (cyclic cause)
    · obtain ⟨address, node, reached, shallow, spot, cyclic⟩ :=
        ih lower (Nat.lt_succ_self lower) culprit
      refine ⟨offset :: address, node, .child composite placed reached, Nat.succ_le_succ shallow,
        by rw [spot, place_cons], fun cause => ?_⟩
      rcases cyclic cause with ⟨identity, member, rfl⟩ | ⟨above, below, rfl, proper, again⟩
      · rcases List.mem_append.mp member with own | outer
        · obtain rfl := identity?_eq_some_iff.mp (Option.mem_toList.mp own)
          exact .inr ⟨[], offset :: address, rfl, by simp, .root _⟩
        · exact .inl ⟨identity, outer, rfl⟩
      · exact .inr ⟨offset :: above, below, rfl, proper, .child composite placed again⟩

/-- All walks end below a node that has been read. -/
theorem acc_of_parseNode {store : ValueStore} {levels ancestors : Nat} {enclosing : List Nat}
    {value : Value} {path : String} {rule : Rule} (budget : levels + ancestors = maxDepth)
    (read : parseNode store levels enclosing value path = .ok rule) :
    Acc (IsChild store) value := by
  induction levels using Nat.strongRecOn generalizing ancestors enclosing value path rule with
  | ind levels ih =>
    constructor
    rintro child ⟨children, composite, member⟩
    by_cases ready : IsReady store value
    · obtain ⟨rule, resolved⟩ := ready
      obtain ⟨entries, held, mapping, -⟩ := composite
      cases resolved.symm.trans mapping
    · obtain ⟨-, ⟨_, _, _, -, -, leaf⟩ | ⟨condition, rules, others, lower, rfl, -, parent, row⟩⟩ :=
        parseNode_ok_cases budget ready read
      · exact absurd composite (leaf children)
      · rw [composite.unique parent] at member
        obtain ⟨spot, part, -, accepted⟩ := (parseEach_ok row).1 child member
        exact ih lower (Nat.lt_succ_self lower) (by omega : lower + (ancestors + 1) = maxDepth)
          accepted

/-- A graph of rules is read exactly when no node comes to stand below itself and the tree that it
unfolds to is read, and then as that tree is. Whatever is refused stands no deeper than composites
may be nested, and is said to be cyclic only if the walk to it has passed it before. -/
theorem parseShared_eq_unfolded (store : ValueStore) (written : Value) (path : String) :
    (∀ rule, parseShared store written path = .ok rule ↔ ¬IsCyclic store written ∧
      ∃ tree, Unfolds store written tree ∧ parseShared store tree path = .ok rule) ∧
    ((∃! tree, Unfolds store written tree) ↔ ¬IsCyclic store written) ∧
    (∀ tree, Unfolds store written tree → IsTree store tree ∧
      parseShared store written path = parseShared store tree path) ∧
    ∀ e, parseShared store written path = .error e →
      ∃ address node, Reaches store written address node ∧ address.length ≤ maxDepth ∧
        e.path = some (place path address) ∧ (e.cause = .cyclic →
          ∃ above below, address = above ++ below ∧ below ≠ [] ∧
            Reaches store written above node) := by
  refine ⟨fun rule => ⟨fun read => ?_, ?_⟩, existsUnique_unfolds_iff,
    fun tree unfolds => ⟨unfolds.isTree, unfolds.parseShared path⟩, fun e refused => ?_⟩
  · obtain ⟨referring, accepted, -⟩ := parseShared_ok_iff.mp read
    have ends := acc_of_parseNode (Nat.add_zero maxDepth) accepted
    obtain ⟨tree, unfolds⟩ := exists_unfolds ends
    exact ⟨not_isCyclic_of_acc ends, tree, unfolds, unfolds.parseShared path ▸ read⟩
  · rintro ⟨-, tree, unfolds, read⟩
    rw [unfolds.parseShared path, read]
  · obtain ⟨address, node, reached, shallow, spot, cyclic⟩ :=
      parseNode_error (parseShared_error_iff.mp refused)
    refine ⟨address, node, reached, shallow, spot, fun cause => ?_⟩
    rcases cyclic cause with ⟨identity, member, -⟩ | found
    · cases member
    · exact found

/-- A composite kept first in the store, with a leaf behind it. -/
def graph (children : List Value) : ValueStore :=
  [.record [("condition", .text "AND"), ("rules", .list children)], visitsLeaf ">"]

/-- A leaf that stands twice in a composite is read twice. Where the composite stands in itself as
well, it is refused there. -/
theorem twins_unfolded :
    (∃ tree rule, Unfolds (graph [.shared 1, .shared 1]) (.shared 0) tree ∧
      parseShared (graph [.shared 1, .shared 1]) (.shared 0) rootPath = .ok rule ∧
      parseShared (graph [.shared 1, .shared 1]) tree rootPath = .ok rule) ∧
    ∃ e address node, parseShared (graph [.shared 1, .shared 1, .shared 0]) (.shared 0) rootPath =
        .error e ∧ e.cause = .cyclic ∧ e.path = some "rules.rules[2]" ∧
      e.path = some (place rootPath address) ∧ ∃ above below, address = above ++ below ∧
        below ≠ [] ∧ Reaches (graph [.shared 1, .shared 1, .shared 0]) (.shared 0) above node := by
  constructor
  · have read : parseShared (graph [.shared 1, .shared 1]) (.shared 0) rootPath =
        .ok (.composite .all (List.replicate 2 (.leaf (.word "visits") .greater (.int 3)))) := rfl
    obtain ⟨-, tree, unfolds, same⟩ := ((parseShared_eq_unfolded _ _ rootPath).1 _).mp read
    exact ⟨tree, _, unfolds, read, same⟩
  · have refused : parseShared (graph [.shared 1, .shared 1, .shared 0]) (.shared 0) rootPath =
        .error ⟨.cyclic, some "rules.rules[2]"⟩ := rfl
    obtain ⟨address, node, -, -, placed, cyclic⟩ :=
      (parseShared_eq_unfolded _ _ rootPath).2.2.2 _ refused
    exact ⟨_, address, node, refused, rfl, rfl, placed, cyclic rfl⟩

end Outreach.Rule
