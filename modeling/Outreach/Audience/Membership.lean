import Outreach.Audience.Scan
import Outreach.Settings

/-!
The audience of a rule among the stored customers: its number, a sample of it, its members one by
one, and whether one customer belongs to it. A rule is read before any customer is looked at;
customers are looked at in the order of their numbers, and the first that cannot be judged ends the
search. Without a rule all customers are streamed.
-/

namespace Outreach.Audience

/-- Why there is no audience. -/
inductive Failure where
  | evaluation (e : EvaluationError)
  /-- The stored tags of a customer have no members. -/
  | unreadableTags
  /-- The scan could not go on. -/
  | brokenScan
  /-- No page can be as large. -/
  | oversizedPage
deriving Repr

/-- A customer as the rule engine sees it. -/
structure Member where
  customer : Customer
  profile : Profile
deriving Repr

/-- Takes the snapshot of a customer. -/
def snapshot (customer : Customer) : Except Failure Profile :=
  match customer.profile? with
  | some profile => .ok profile
  | none => .error .unreadableTags

/-- The verdict of a rule on a snapshot. -/
def judge (rule : Rule) (profile : Profile) : Except Failure Bool :=
  (rule.evaluate Registry.standard profile.subject).mapError .evaluation

/-- Reads a written rule. -/
def ruleOf (store : ValueStore) (written : Value) : Except Failure Rule :=
  (Rule.parseShared store written Rule.rootPath).mapError fun e => .evaluation (.rule e)

/-- What the end of a scan means. -/
def Ending.failure? : Ending → Option Failure
  | complete => none
  | broken | unfinished => some .brokenScan

/-- The size of pages: the one given, unless it is zero, or the configured one. -/
def pageSize (settings : Settings) (given : Option Int) : Int :=
  (given.filter (· ≠ 0)).getD settings.batchSize

/-- The customers of a table, read in pages of a size. -/
def customersOf (size : Int) (table : Table Customer) : Except Failure Scan :=
  if fitsColumn size then .ok (scan size table) else .error .oversizedPage

/-! ### The number of members -/

/-- Counts on from a number of members. -/
def countFrom (rule : Rule) (ending : Ending) : (count : Nat) → List Customer → Except Failure Nat
  | count, [] =>
      match ending.failure? with
      | none => .ok count
      | some failure => .error failure
  | count, customer :: rest => do
      let holds ← judge rule (← snapshot customer)
      countFrom rule ending (if holds then count + 1 else count) rest

def count (size : Int) (table : Table Customer) (store : ValueStore) (written : Value) :
    Except Failure Nat := do
  let rule ← ruleOf store written
  let scan ← customersOf size table
  countFrom rule scan.ending 0 scan.customers

/-! ### A sample of the members -/

structure Preview where
  count : Nat
  sample : List Int
deriving DecidableEq, Repr

/-- Goes on with the members met so far; the sample takes the first ones. -/
def previewFrom (rule : Rule) (ending : Ending) (most : Int) :
    Preview → List Customer → Except Failure Preview
  | preview, [] =>
      match ending.failure? with
      | none => .ok preview
      | some failure => .error failure
  | preview, customer :: rest => do
      if ← judge rule (← snapshot customer) then
        let sample :=
          if preview.sample.length < most then preview.sample ++ [customer.id] else preview.sample
        previewFrom rule ending most ⟨preview.count + 1, sample⟩ rest
      else previewFrom rule ending most preview rest

def preview (size : Int) (table : Table Customer) (store : ValueStore) (written : Value)
    (most : Int) : Except Failure Preview := do
  let rule ← ruleOf store written
  let scan ← customersOf size table
  previewFrom rule scan.ending most ⟨0, []⟩ scan.customers

/-! ### The members one by one -/

/-- The members met, and what ended the search before its time. -/
structure Members where
  found : List Member
  failure : Option Failure
deriving Repr

/-- The members among customers, of which `found` were met before; the search may be given up after
any of them. -/
def membersFrom (rule : Rule) (ending : Ending) (enough : Nat → Bool) :
    (found : Nat) → List Customer → Members
  | _, [] => ⟨[], ending.failure?⟩
  | found, customer :: rest =>
      match snapshot customer with
      | .error failure => ⟨[], some failure⟩
      | .ok profile =>
          match judge rule profile with
          | .error failure => ⟨[], some failure⟩
          | .ok false => membersFrom rule ending enough found rest
          | .ok true =>
              if enough (found + 1) then ⟨[⟨customer, profile⟩], none⟩
              else
                let others := membersFrom rule ending enough (found + 1) rest
                ⟨⟨customer, profile⟩ :: others.found, others.failure⟩

/-- The members, up to the number that is enough. -/
def members (size : Int) (table : Table Customer) (store : ValueStore) (written : Value)
    (enough : Nat → Bool) : Members :=
  match ruleOf store written, customersOf size table with
  | .error failure, _ | _, .error failure => ⟨[], some failure⟩
  | .ok rule, .ok scan => membersFrom rule scan.ending enough 0 scan.customers

/-! ### All customers one by one -/

/-- The snapshots of customers, up to the first customer of whom none can be taken. -/
def recordsFrom (ending : Ending) : List Customer → Members
  | [] => ⟨[], ending.failure?⟩
  | customer :: rest =>
      match snapshot customer with
      | .error failure => ⟨[], some failure⟩
      | .ok profile =>
          let others := recordsFrom ending rest
          ⟨⟨customer, profile⟩ :: others.found, others.failure⟩

/-- Streams the customers of a table that changes with every page. -/
def streamAll (size : Int) (tables : List (Table Customer)) : Members :=
  if fitsColumn size then
    let scan := scanAll size tables
    recordsFrom scan.ending scan.customers
  else ⟨[], some .oversizedPage⟩

/-- Streams the customers of a table that does not change, with as many pages as a scan. -/
def stream (size : Int) (table : Table Customer) : Members :=
  streamAll size (List.replicate (table.size + 2) table)

/-! ### One customer -/

/-- Whether a customer belongs to the audience of a written rule. Here the customer is looked at
before the rule is read. -/
def includes (store : ValueStore) (written : Value) (customer : Customer) : Except Failure Bool := do
  let profile ← snapshot customer
  judge (← ruleOf store written) profile

/-- Whether a customer belongs to the audience of a rule as it is stored. -/
def isMember (written : Value) (customer : Customer) : Except Failure Bool :=
  includes [] written customer

end Outreach.Audience
