import Outreach.Store.Outcome

/-!
Listings: rows in an order, cut into pages that are numbered from one.
-/

namespace Outreach

/-- Which page of a listing is asked for. -/
structure PageRequest where
  number : Int
  size : Int
deriving DecidableEq, Repr

/-- A page, with the number of all rows of the listing. -/
structure Page (α : Type) where
  items : List α
  total : Nat
  number : Int
  size : Int
deriving Repr

namespace PageRequest

/-- The number of rows on the pages before. -/
def offset (request : PageRequest) : Int := (request.number - 1) * request.size

end PageRequest

namespace Page

/-- The page of a listing that is asked for. -/
def ofListing {ρ : Type} (request : PageRequest) (listing : List ρ) : Page ρ where
  items := (listing.drop request.offset.toNat).take request.size.toNat
  total := listing.length
  number := request.number
  size := request.size

/-- The number of pages that the whole listing fills. The number of rows is divided by the size of a
page as a double, and the quotient rounded up. -/
def pageCount {α : Type} (page : Page α) : Int :=
  (Binary64.ofQuotient false page.total page.size.toNat).ceiling

/-- The page with its rows shown, if all of them can be. -/
def show? {ρ α : Type} (view? : ρ → Option α) (page : Page ρ) : Option (Page α) :=
  (page.items.mapM view?).map fun items => ⟨items, page.total, page.number, page.size⟩

end Page

/-- Shows the page of a listing that is asked for. The rows before it have to be so few that their
number fits a column. -/
def showPage {ρ α : Type} (db : Database) (request : PageRequest) (view? : ρ → Option α)
    (listing : List ρ) : Except Halt (Effect (Page α)) := do
  ensureFits request.offset
  return ⟨db, (Page.ofListing request listing).show? view?⟩

/-- Rows with the newest first; of rows made at one time the last one comes first. -/
def newestFirst {ρ : Type} (createdAt : ρ → Stamp) (rows : List ρ) : List ρ :=
  rows.reverse.mergeSort fun a b => (createdAt b).rank ≤ (createdAt a).rank

end Outreach
