import Outreach.Value.Basic

/-!
Values that share containers. A container may be met in several places, and may even enclose
itself; it is then kept in a store beside the value and named by its place there. Nothing that is
read from JSON shares anything.
-/

namespace Outreach

/-- The containers that values refer to by their places. -/
abbrev ValueStore := List Value

namespace Value

/-- The container that a reference names; any other value as it is. -/
def resolve (store : ValueStore) : Value → Value
  | shared identity => (store[identity]?).getD (shared identity)
  | value => value

mutual

/-- A value in which something stands for every reference. -/
def substitute (referent : Nat → Value) : Value → Value
  | list items => list (substituteItems referent items)
  | tuple items => tuple (substituteItems referent items)
  | set items => set (substituteItems referent items)
  | dict entries => dict (substituteEntries referent entries)
  | rule r => rule (substituteRule referent r)
  | shared identity => referent identity
  | value => value

def substituteItems (referent : Nat → Value) : List Value → List Value
  | [] => []
  | item :: rest => substitute referent item :: substituteItems referent rest

def substituteEntries (referent : Nat → Value) : List (Value × Value) → List (Value × Value)
  | [] => []
  | (key, item) :: rest =>
      (substitute referent key, substitute referent item) :: substituteEntries referent rest

def substituteRule (referent : Nat → Value) : Rule → Rule
  | .leaf field operator value => .leaf field operator (substitute referent value)
  | .composite condition rules => .composite condition (substituteRules referent rules)

def substituteRules (referent : Nat → Value) : List Rule → List Rule
  | [] => []
  | r :: rest => substituteRule referent r :: substituteRules referent rest

end

/-- What stands for a container inside itself. -/
def recurrenceOf (store : ValueStore) (identity : Nat) : Value :=
  recurring (((shared identity).resolve store).shape?.getD .dict)

/-- A value as it is seen `levels` references deep. Containers that enclose the present place
are not entered again. -/
def unfold (store : ValueStore) : (levels : Nat) → (enclosing : List Nat) → Value → Value
  | 0, _, value => value.substitute (recurrenceOf store)
  | levels + 1, enclosing, value =>
      value.substitute fun identity =>
        if enclosing.contains identity then recurrenceOf store identity
        else
          match store[identity]? with
          | some container => unfold store levels (identity :: enclosing) container
          | none => recurrenceOf store identity

/-- A value without references. As no container is entered inside itself, no more references are
followed into one another than there are containers. -/
def exposed (store : ValueStore) (value : Value) : Value := unfold store store.length [] value

/-- A mapping whose values are without references, each as it is seen from its own place. -/
def exposedEntries (store : ValueStore) (value : Value) : Value :=
  match value.resolve store with
  | dict entries => dict (entries.map fun (key, item) => (key, item.exposed store))
  | _ => value.exposed store

end Value

end Outreach
