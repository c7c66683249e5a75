import Outreach.Problem.Refusal
import Outreach.Store.Database

/-!
What becomes of a request to the database. Either nothing happens, because the request is refused
or because it fails, or its changes are made and there is an answer; only then is there a database
to go on with.
-/

namespace Outreach

/-- What went wrong where nothing was to go wrong. -/
inductive Mishap where
  /-- A whole number that no column holds. -/
  | oversizedNumber
  /-- States of a sign-in were compared that are not both in ASCII. -/
  | foreignState
  | severalUsers
  | unforeseen
deriving DecidableEq, Repr

/-- The wording of a mishap, where it has one of its own. -/
def Mishap.message? : Mishap → Option String
  | oversizedNumber => some "Python int too large to convert to SQLite INTEGER"
  | foreignState => some "comparing strings with non-ASCII characters is not supported"
  | severalUsers | unforeseen => none

/-- Why nothing happened. -/
inductive Halt where
  | refused (refusal : Refusal)
  | failed (mishap : Mishap)
deriving Repr

/-- A request that was carried out. -/
structure Effect (α : Type) where
  database : Database
  /-- There is none if what is stored cannot be shown. -/
  answer : Option α

def Effect.map {α β : Type} (f : α → β) (effect : Effect α) : Effect β :=
  ⟨effect.database, effect.answer.map f⟩

def refuse {α : Type} (refusal : Refusal) : Except Halt α := .error (.refused refusal)

def mishap {α : Type} (cause : Mishap) : Except Halt α := .error (.failed cause)

/-- Fails unless something holds. -/
def ensure (holds : Bool) : Except Halt Unit := if holds then .ok () else mishap .unforeseen

/-- Fails unless a column can hold a number. -/
def ensureFits (n : Int) : Except Halt Unit :=
  if fitsColumn n then .ok () else mishap .oversizedNumber

/-- Fails where there is nothing. -/
def orFail {α : Type} : Option α → Except Halt α
  | some value => .ok value
  | none => mishap .unforeseen

namespace Table

/-- The row with a number. A number that no column holds makes the search fail. -/
def get {ρ : Type} [Row ρ] (table : Table ρ) (resource : Resource) (id : Int) : Except Halt ρ :=
  if fitsColumn id then
    match table.find? id with
    | some row => .ok row
    | none => refuse (.missing resource id)
  else mishap .oversizedNumber

end Table

end Outreach
