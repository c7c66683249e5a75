import Outreach.Campaign.Basic
import Outreach.Customer.Basic
import Outreach.Delivery.Log
import Outreach.Order.Basic
import Outreach.Schema.Vocabulary
import Outreach.Segment.Basic
import Outreach.User.Basic
import Outreach.Value.Literal

/-!
The database: a table for each kind of row, and what deleting a row takes along. Short descriptions
of rows, made from the values of their columns.
-/

namespace Outreach

/-- The tables. -/
inductive TableName where
  | users | customers | orders | segments | campaigns | logs
deriving DecidableEq, Repr

instance : Vocabulary TableName where
  all := [.users, .customers, .orders, .segments, .campaigns, .logs]
  word
    | .users => "users"
    | .customers => "customers"
    | .orders => "orders"
    | .segments => "segments"
    | .campaigns => "campaigns"
    | .logs => "logs"
  mem_all table := by cases table <;> decide
  word_injective a b := by cases a <;> cases b <;> simp

namespace TableName

/-- The description of a row of a table with the given columns. -/
def label (table : TableName) (column : String → Value) : String :=
  let shown (name : String) : String := (column name).display
  match table with
  | users => "<User " ++ shown "email" ++ ">"
  | customers => "<Customer " ++ shown "name" ++ " <" ++ shown "email" ++ ">>"
  | orders => "<Order " ++ shown "order_number" ++ " amount=" ++ shown "amount" ++ ">"
  | segments =>
      "<Segment id=" ++ shown "id" ++ " name='" ++ shown "name" ++ "' audience=" ++
        shown "estimated_audience" ++ ">"
  | campaigns =>
      "<Campaign id=" ++ shown "id" ++ " name='" ++ shown "name" ++ "' status=" ++
        shown "status" ++ ">"
  | logs =>
      "<CommunicationLog id=" ++ shown "id" ++ " campaign=" ++ shown "campaign_id" ++ " status=" ++
        shown "status" ++ ">"

end TableName

structure Database where
  users : Table User := .empty
  customers : Table Customer := .empty
  orders : Table Order := .empty
  segments : Table Segment := .empty
  campaigns : Table Campaign := .empty
  logs : Table MessageLog := .empty

namespace Database

instance : Inhabited Database := ⟨{}⟩

/-- Drops a customer with the orders and message logs that belong to it. -/
def deleteCustomer (db : Database) (id : Int) : Database :=
  { db with
    customers := db.customers.delete id
    orders := db.orders.deleteWhere fun order => order.customer = id
    logs := db.logs.deleteWhere fun log => log.customer = id }

/-- Drops a campaign with its message logs. -/
def deleteCampaign (db : Database) (id : Int) : Database :=
  { db with
    campaigns := db.campaigns.delete id
    logs := db.logs.deleteWhere fun log => log.campaign = id }

/-- The columns of all rows of a table. -/
def dump (db : Database) : TableName → List Columns
  | .users => db.users.rows.map User.columns
  | .customers => db.customers.rows.map Customer.columns
  | .orders => db.orders.rows.map Order.columns
  | .segments => db.segments.rows.map Segment.columns
  | .campaigns => db.campaigns.rows.map Campaign.columns
  | .logs => db.logs.rows.map MessageLog.columns

/-- Adds a row to a table, under the number that its columns give or else under the next. -/
def place? {ρ : Type} [Row ρ] (table : Table ρ) (given : Columns) (row : ρ) : Option (Table ρ) :=
  match given.int? "id" with
  | some n => table.insertAs? n row
  | none => some (table.insert row)

/-- Adds a row of given columns to a table, if the columns make one. -/
def insertColumns? (db : Database) (now : Moment) (table : TableName) (given : Columns) :
    Option Database :=
  match table with
  | .users => do
      let users ← place? db.users given (← User.ofColumns? now given)
      some { db with users }
  | .customers => do
      let customers ← place? db.customers given (← Customer.ofColumns? now given)
      some { db with customers }
  | .orders => do
      let orders ← place? db.orders given (← Order.ofColumns? now given)
      some { db with orders }
  | .segments => do
      let segments ← place? db.segments given (← Segment.ofColumns? now given)
      some { db with segments }
  | .campaigns => do
      let campaigns ← place? db.campaigns given (← Campaign.ofColumns? now given)
      some { db with campaigns }
  | .logs => do
      let logs ← place? db.logs given (← MessageLog.ofColumns? now given)
      some { db with logs }

end Database

end Outreach
