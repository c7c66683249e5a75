import Outreach.Customer.Basic

/-!
Going through the customers page by page. Each page is asked of the table as it is at that time and
begins after the last number seen, so that changes between pages neither skip nor repeat a customer
who stays. A page that is not full ends the scan.
-/

namespace Outreach.Audience

/-- The customers after a number, at most as many as a page holds. A negative size is no limit. -/
def pageAfter (size last : Int) (table : Table Customer) : List Customer :=
  let later := table.rows.filter fun customer => last < customer.id
  if size < 0 then later else later.take size.toNat

/-- How a scan ends. -/
inductive Ending where
  /-- With a page that was not full. -/
  | complete
  /-- With a page that has no last customer from which to go on. -/
  | broken
  /-- With the table states to look at. -/
  | unfinished
deriving DecidableEq, Repr

/-- The customers met, and how the scan ended. -/
structure Scan where
  customers : List Customer
  ending : Ending
deriving Repr

/-- Goes on after a number, with one state of the table for each page. -/
def scanFrom (size : Int) : (last : Int) → List (Table Customer) → Scan
  | _, [] => ⟨[], .unfinished⟩
  | last, table :: later =>
      let page := pageAfter size last table
      if page.length < size then ⟨page, .complete⟩
      else match page.getLast? with
        | none => ⟨[], .broken⟩
        | some final =>
            let scan := scanFrom size final.id later
            ⟨page ++ scan.customers, scan.ending⟩

/-- Goes through a table that changes with every page. -/
def scanAll (size : Int) (tables : List (Table Customer)) : Scan := scanFrom size 0 tables

/-- Goes through a table that does not change. One page more than there are customers is enough,
and one more again where pages have no limit. -/
def scan (size : Int) (table : Table Customer) : Scan :=
  scanAll size (List.replicate (table.size + 2) table)

end Outreach.Audience
