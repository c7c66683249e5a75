import Outreach.Value.Basic

/-!
Sameness of values across kinds. Numbers are the same when their exact values agree, whatever
their kind, and truth values count as one and zero; texts when their characters agree; moments
when they name the same instant and both or neither have an offset. Lists, tuples, sets, mappings
and rules are the same kind by kind, by their contents. Nothing else is the same.
-/

namespace Outreach

/-- Why two values could not be compared at all. -/
inductive Fault where
  /-- A number of the signaling kind took part in a comparison. -/
  | signalingNumber
  /-- A moment with an offset was ordered against one without. -/
  | mixedOffsets
  /-- A value that can change was looked up in a set. -/
  | unhashable
  /-- Two values without end were compared. -/
  | endless
deriving DecidableEq, Repr

namespace Value

/-- The outcome of a comparison that may be refused. -/
abbrev Verdict := Except Fault Bool

/-- Sameness of numbers. `oneNaN` says whether all not-a-numbers are one and the same object. -/
def sameNumber (oneNaN : Bool) (a b : Value) (x y : Decimal) : Verdict :=
  if x.isSignaling || y.isSignaling then .error .signalingNumber
  else match a, b with
    | float .nan, float .nan => .ok oneNaN
    | _, _ => .ok (Decimal.compare? x y == some .eq)

def sameMoment (a b : Moment) : Bool :=
  a.offset.isSome == b.offset.isSome && a.instant == b.instant

/-- Sameness of values that have no members. -/
def sameScalar (oneNaN : Bool) (a b : Value) : Verdict :=
  match a.asNumber?, b.asNumber? with
  | some x, some y => sameNumber oneNaN a b x y
  | _, _ =>
      match a.asText?, b.asText? with
      | some s, some t => .ok (s == t)
      | _, _ =>
          match a, b with
          | null, null => .ok true
          | bytes s, bytes t => .ok (s == t)
          | date d, date e => .ok (d == e)
          | moment m, moment n => .ok (sameMoment m n)
          | shared i, shared j => .ok (i == j)
          | _, _ => .ok false

/-- The value of the first entry whose key passes the test. -/
def findEntry (test : Value → Verdict) : List (Value × Value) → Except Fault (Option Value)
  | [] => .ok none
  | (key, item) :: rest =>
      match test key with
      | .error fault => .error fault
      | .ok true => .ok (some item)
      | .ok false => findEntry test rest

/-- Whether some member passes the test; the first that cannot be tested ends the search. -/
def anyMember (test : Value → Verdict) : List Value → Verdict
  | [] => .ok false
  | item :: rest =>
      match test item with
      | .error fault => .error fault
      | .ok true => .ok true
      | .ok false => anyMember test rest

mutual

/-- Whether a container stands inside itself somewhere in a value. -/
def isEndless : Value → Bool
  | list items | tuple items | set items => anyEndless items
  | dict entries => anyEntryEndless entries
  | rule r => isRuleEndless r
  | recurring _ => true
  | _ => false

def anyEndless : List Value → Bool
  | [] => false
  | item :: rest => isEndless item || anyEndless rest

def anyEntryEndless : List (Value × Value) → Bool
  | [] => false
  | (key, item) :: rest => isEndless key || isEndless item || anyEntryEndless rest

def isRuleEndless : Rule → Bool
  | .leaf _ _ value => isEndless value
  | .composite _ rules => anyRuleEndless rules

def anyRuleEndless : List Rule → Bool
  | [] => false
  | r :: rest => isRuleEndless r || anyRuleEndless rest

end

/-- Sameness of a container inside itself with a value: there is no telling if that has no end
either, and they differ if it has one. -/
def sameRecurring (shape : Shape) (other : Value) : Verdict :=
  if other.shape? = some shape ∧ other.isEndless then .error .endless else .ok false

mutual

/-- Whether two values are the same. -/
def same (oneNaN : Bool) : Value → Value → Verdict
  | list xs, list ys => if xs.length = ys.length then sameItems oneNaN xs ys else .ok false
  | tuple xs, tuple ys => sameItems oneNaN xs ys
  | set xs, set ys => if xs.length = ys.length then subset oneNaN xs ys else .ok false
  | dict xs, dict ys => if xs.length = ys.length then sameEntries oneNaN xs ys else .ok false
  | rule r, rule s => sameRule oneNaN r s
  | recurring shape, other => sameRecurring shape other
  | other, recurring shape => sameRecurring shape other
  | a, b => sameScalar oneNaN a b

/-- Compares members place by place; the first difference settles it, then the lengths. -/
def sameItems (oneNaN : Bool) : List Value → List Value → Verdict
  | [], [] => .ok true
  | x :: xs, y :: ys =>
      match same oneNaN x y with
      | .ok true => sameItems oneNaN xs ys
      | verdict => verdict
  | _, _ => .ok false

/-- Whether every member of the first is a member of the second. -/
def subset (oneNaN : Bool) : List Value → List Value → Verdict
  | [], _ => .ok true
  | x :: xs, ys =>
      match anyMember (fun y => same oneNaN x y) ys with
      | .ok true => subset oneNaN xs ys
      | verdict => verdict

/-- Whether every entry of the first has its key and value in the second. -/
def sameEntries (oneNaN : Bool) : List (Value × Value) → List (Value × Value) → Verdict
  | [], _ => .ok true
  | (key, item) :: rest, entries =>
      match findEntry (fun other => same oneNaN key other) entries with
      | .error fault => .error fault
      | .ok none => .ok false
      | .ok (some found) =>
          match same oneNaN item found with
          | .ok true => sameEntries oneNaN rest entries
          | verdict => verdict

/-- Rules are the same part by part. -/
def sameRule (oneNaN : Bool) : Rule → Rule → Verdict
  | .leaf f op v, .leaf g other w =>
      if f.letters = g.letters ∧ op = other then same oneNaN v w else .ok false
  | .composite c rs, .composite d ss =>
      if c = d then sameRules oneNaN rs ss else .ok false
  | _, _ => .ok false

def sameRules (oneNaN : Bool) : List Rule → List Rule → Verdict
  | [], [] => .ok true
  | r :: rest, s :: others =>
      match sameRule oneNaN r s with
      | .ok true => sameRules oneNaN rest others
      | verdict => verdict
  | _, _ => .ok false

end

mutual

/-- Whether a value can be a key or a member of a set: it cannot change and is no signaling
number. -/
def isHashable : Value → Bool
  | list _ | set _ | dict _ | shared _ | recurring _ => false
  | tuple items => allHashable items
  | rule r => isRuleHashable r
  | decimal d => !d.isSignaling
  | _ => true

def allHashable : List Value → Bool
  | [] => true
  | item :: rest => isHashable item && allHashable rest

def isRuleHashable : Rule → Bool
  | .leaf _ _ value => isHashable value
  | .composite _ rules => allRulesHashable rules

def allRulesHashable : List Rule → Bool
  | [] => true
  | r :: rest => isRuleHashable r && allRulesHashable rest

end

/-- Adds a member to a set unless it has it already. -/
def insertMember (members : List Value) (item : Value) : Except Fault (List Value) :=
  if item.isHashable then
    match anyMember (fun member => same false member item) members with
    | .error fault => .error fault
    | .ok true => .ok members
    | .ok false => .ok (members ++ [item])
  else .error .unhashable

/-- Replaces the value of the first entry whose key passes the test. -/
def replaceEntry (test : Value → Bool) (item : Value) :
    List (Value × Value) → List (Value × Value)
  | [] => []
  | (key, old) :: rest =>
      if test key then (key, item) :: rest else (key, old) :: replaceEntry test item rest

/-- Puts an entry into a mapping: in place of the one with the same key, or at the end. -/
def insertEntry (entries : List (Value × Value)) (key item : Value) :
    Except Fault (List (Value × Value)) :=
  if key.isHashable then
    match findEntry (fun other => same false key other) entries with
    | .error fault => .error fault
    | .ok none => .ok (entries ++ [(key, item)])
    | .ok (some _) =>
        .ok (replaceEntry (fun other => (same false key other).toOption.getD false) item entries)
  else .error .unhashable

/-- Whether two values are the same as contents of a column, where there is one not-a-number. -/
def isSame (a b : Value) : Bool :=
  match same true a b with
  | .ok answer => answer
  | .error _ => false

/-- Whether a value is a member of a sequence. -/
def memberOf (item : Value) (members : List Value) : Verdict :=
  anyMember (fun member => same false member item) members

/-- Whether a value is a member of a set. A set is looked up by its contents. -/
def memberOfSet (item : Value) (members : List Value) : Verdict :=
  match item with
  | set _ => memberOf item members
  | _ => if item.isHashable then memberOf item members else .error .unhashable

end Value

end Outreach
