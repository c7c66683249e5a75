import Mathlib.Data.String.Basic
import Outreach.Proofs.Api.References
import Outreach.Proofs.Api.Shown
import Outreach.Proofs.Customer.Sorted
import Outreach.Proofs.Form.RoundTrip

/-! Pages of the listings. Whoever asks for the pages of a listing, one after the other, is told all
that it is about, each row once, in an order that is the same for every page: for customers by the
column asked for, for all else with the newest first. -/

namespace Outreach

/-! ### What can be told -/

/-- Every row of a table can be shown and told, and its numbers fit a column. -/
structure Table.IsTold {ρ α : Type} [Row ρ] (table : Table ρ) (view? : ρ → Option α)
    (write : α → Value) : Prop where
  shown : ∀ row ∈ table.rows, ∃ view, view? row = some view ∧ (write view).IsTellable
  fits : fitsColumn table.lastId

/-- Every row that is listed can be told. -/
structure HasToldRows (db : Database) : Prop where
  customers : db.customers.IsTold Customer.view? (CustomerView.toValue {})
  orders : db.orders.IsTold Order.view? (OrderView.toValue {})
  segments : db.segments.IsTold Segment.view? (SegmentView.toValue {})
  campaigns : db.campaigns.IsTold Campaign.view? (CampaignView.toValue {})

/-- There are too few rows for the rows before a page not to fit a column. -/
theorem Table.fits_offset {ρ : Type} [Row ρ] {table : Table ρ} {listing : List ρ} {offset : Nat}
    (fits : fitsColumn table.lastId) (fewer : listing.length ≤ table.size)
    (within : offset < listing.length) : fitsColumn offset := by
  have most := table.size_le_lastId
  simp only [fitsColumn, Bool.and_eq_true, decide_eq_true_eq] at fits ⊢
  have least : (0 : Int) ≤ powerOfTwo 63 := Int.natCast_nonneg _
  omega

/-- A search can be made among customers: there are none, or its text is not too long. -/
def Directory.CanSearch (search : Option String) (customers : List Customer) : Prop :=
  ∀ sought, nonempty? search = some sought →
    customers = [] ∨ Text.Pattern.isOversized (Text.Pattern.around sought.toList) = false

theorem Directory.found_eq {search : Option String} {customers : List Customer}
    (searchable : CanSearch search customers) :
    found search customers = .ok (customers.filter fun customer =>
      (nonempty? search).all (isFound · customer)) := by
  unfold found
  cases given : nonempty? search with
  | none => simp
  | some sought =>
    dsimp only
    rcases searchable sought given with none | short
    · rw [none]
      rfl
    · rw [short, Bool.not_false, Bool.or_true]
      rfl

/-- Where there are customers, a search that is too long fails. -/
theorem Directory.list_oversized {db : Database} {query : Query} {order : SortOrder}
    {sought : String} (sorts : orderOf query.order = .ok order)
    (given : nonempty? query.search = some sought)
    (oversized : Text.Pattern.isOversized (Text.Pattern.around sought.toList))
    (filled : db.customers.rows.isEmpty = false) :
    list db query = .error (.failed .unforeseen) := by
  unfold list found
  rw [sorts, given]
  dsimp only
  rw [filled, oversized]
  rfl

namespace Api

open Http (Request Response)

/-! ### Answers -/

theorem Route.shows : ∀ route ∈ Route.all, route.method ≠ "HEAD" := by decide

section
variable {env : Environment} {db written : Database} {request : Request} {user : User}
  {action : Action}

/-- What is carried out is answered with content. -/
theorem Carries.shows (carries : Carries env db request user action) :
    request.method ≠ "HEAD" := by
  obtain ⟨task, arguments, body, routed, -⟩ := carries.read
  obtain ⟨route, member, method, -⟩ := routing_found routed
  rw [← method]
  exact Route.shows route member

/-- What is told with success is sent as it is told. -/
theorem respond_success {status : Nat} {value : Value} (carries : Carries env db request user action)
    (performed : action.perform env db user = .ok ⟨written, some (success status value)⟩)
    (told : value.IsTellable) :
    (respond env db request).response.status = status ∧
      (respond env db request).response.content = .json value.toJson ∧
      (respond env db request).database = written := by
  have sendable : (success status value).isSendable := told
  have response : (respond env db request).response =
      dressed env request (success status value) := by
    rw [respond_of_carries carries, performed]
    show sent request (handedOut env request (success status value)) = _
    unfold sent handedOut
    rw [if_neg carries.shows, if_pos sendable]
  rw [response]
  refine ⟨rfl, rfl, ?_⟩
  rw [respond_of_carries carries, performed]
  rfl

end

/-- Whoever has an action carried out is told a value, and the database stays as it is. -/
def Tells (db : Database) (action : Action) (value : Value) : Prop :=
  ∀ (visit : Visit) (user : User), visit.Carries db user action →
    (respond visit.environment db visit.request).response.status = 200 ∧
    (respond visit.environment db visit.request).response.content = .json value.toJson ∧
    (respond visit.environment db visit.request).database = db

/-! ### Pages -/

section
variable {ρ α : Type} {db : Database} {view? : ρ → Option α} {rows : List ρ}

/-- Rows are told in pages of a size: in an order, they are cut into pages, and whoever asks for a
page is told it. Pages after the last one are told as well, as far as the number of rows before them
fits a column. -/
def IsPaged (db : Database) (ask : PageRequest → Action) (write : Page α → Value)
    (view? : ρ → Option α) (rows : List ρ) (before : ρ → ρ → Prop) (size : Nat) : Prop :=
  ∃ listing count pages, listing.Perm rows ∧ listing.Pairwise before ∧
    IsCut view? listing size count pages ∧
    ∀ n, n < count ∨ fitsColumn (n * size : Nat) →
      Tells db (ask (.after size n)) (write (pages n))

variable [Row ρ] {table : Table ρ} {ask : PageRequest → Action} {item : α → Value}
  {write : Page α → Value} {listing : List ρ} {before : ρ → ρ → Prop} {size : Nat}

/-- A listing of rows that can be told is told in pages. -/
theorem isPaged_of_showPage (positive : 0 < size) (told : table.IsTold view? item)
    (tellable : ∀ page : Page α, (∀ view ∈ page.items, (item view).IsTellable) →
      (write page).IsTellable)
    (among : rows.Sublist table.rows) (permuted : listing.Perm rows)
    (sorted : listing.Pairwise before)
    (performs : ∀ env user request, (ask request).perform env db user =
      tell 200 write (showPage db request view? listing)) :
    IsPaged db ask write view? rows before size := by
  obtain ⟨views, shown, each⟩ := forall₂_views fun row member =>
    told.shown row (among.subset (permuted.mem_iff.mp member))
  have fewer : listing.length ≤ table.size := permuted.length_eq ▸ among.length_le
  refine ⟨listing, _, _, permuted, sorted, isCut_ofListing positive shown, ?_⟩
  intro n asked visit user carries
  have fits : fitsColumn (PageRequest.after size n).offset := by
    rw [PageRequest.offset_after]
    rcases asked with within | fits
    · exact Table.fits_offset told.fits fewer ((pagesFilled_bounds positive).2 n within)
    · exact fits
  refine respond_success carries ?_ (tellable _ fun view member => each view
    (mem_of_mem_ofListing member))
  rw [performs, showPage_eq db fits shown]
  rfl

end

/-- The customers whom a search finds are told in pages, in the order asked for. -/
theorem isPaged_customers {db : Database} (told : HasToldRows db) {size : Nat} (positive : 0 < size)
    {search : Option String} {text : String} {order : Directory.SortOrder}
    (sorts : Directory.SortOrder.ofText? text = some order)
    (searchable : Directory.CanSearch search db.customers.rows) :
    IsPaged db (fun page => .listCustomers ⟨page, search, text⟩) customersValue Customer.view?
      (db.customers.rows.filter fun customer =>
        (nonempty? search).all (Directory.isFound · customer)) order.Precedes size := by
  have spends (customer : Customer) (member : customer ∈ db.customers.rows) :
      customer.totalSpend.isNonnegative := by
    obtain ⟨view, shown, -⟩ := told.customers.shown customer member
    exact Customer.isNonnegative_of_view shown
  refine isPaged_of_showPage positive told.customers (fun _ => isTellable_customersValue)
    List.filter_sublist (order.sort_perm _)
    (Directory.SortOrder.sort_pairwise
      (fun customer member => spends customer (List.mem_filter.mp member).1)
      (db.customers.ascending_filter _)) fun env user request => ?_
  have ordered : Directory.orderOf text = .ok order := by
    unfold Directory.orderOf
    rw [sorts]
  show tell 200 customersValue (Directory.list db ⟨request, search, text⟩) = _
  unfold Directory.list
  rw [ordered, Directory.found_eq searchable]
  rfl

namespace Sample

/-- A visit of the user who asks for something with a query. -/
def asking (path query : String) : Visit :=
  { visit "GET" path "" with request := { (visit "GET" path "").request with query } }

theorem asking_carries {db : Database} {path query : String} {action : Action}
    (users : db.users = start.users)
    (read : ∃ task arguments, routing "GET" path = .found (.task task) arguments ∧
      task.readsBody = false ∧
      task.read ⟨arguments, (asking path query).request.parameters, .absent⟩ = .accepted action) :
    (asking path query).Carries db user action where
  direct := by simp [Http.Cors.isInquiry, asking, visit]
  up := rfl
  signedIn := signedIn users "GET" path ""
  read := by
    obtain ⟨task, arguments, routed, silent, read⟩ := read
    refine ⟨task, arguments, .absent, routed, ?_, read⟩
    unfold bodyFor
    rw [silent]
    rfl

/-- An order of the customer, made at a time. -/
def orderAt (createdAt : Stamp) : Order where
  id := 0
  customer := 1
  number := "1"
  amount := .zero false
  items := .list []
  status := .pending
  paymentStatus := .pending
  createdAt

/-- A database with a customer, a segment, a campaign, and two orders of one time. The time of the
first was given, that of the second the database set. -/
def shelf : Database :=
  { loyalCampaign with
    orders := (loyalCampaign.orders.insert (orderAt (.ofMoment environment.now))).insert
      (orderAt (.automatic environment.now)) }

theorem shelf_orders : shelf.orders.rows = [
    { orderAt (.ofMoment environment.now) with id := 1 },
    { orderAt (.automatic environment.now) with id := 2 }] := rfl

theorem loyalCustomer_isSound : loyalCustomer.IsSound where
  name := ⟨by decide, by decide, by decide⟩
  email := ⟨_, Email.email_sample, by decide⟩
  phone := by
    rintro _ ⟨⟩
  spend := rfl
  visits := by decide
  fits := by decide
  tags := ⟨[], rfl, by simp⟩
  kept := Binary64.stored_stored (.zero false)
  clock := rfl

theorem told_of_any {ρ α : Type} {view? : ρ → Option α} {write : α → Value} {row : ρ}
    (told : (view? row).any (fun view => (write view).toJson.isWhole) = true) :
    ∃ view, view? row = some view ∧ (write view).IsTellable :=
  (Option.any_eq_true _ _).mp told

theorem shelf_told : HasToldRows shelf where
  customers := by
    refine ⟨?_, by decide⟩
    show ∀ row ∈ [loyalCustomer], _
    exact List.forall_mem_singleton.mpr loyalCustomer_isSound.shown
  orders := by
    refine ⟨?_, by decide⟩
    rw [shelf_orders]
    exact List.forall_mem_cons.mpr ⟨told_of_any (by cbv),
      List.forall_mem_singleton.mpr (told_of_any (by cbv))⟩
  segments := by
    refine ⟨?_, by decide⟩
    show ∀ row ∈ [{ Segments.newRow environment.now user.id segmentDraft 1 with id := 1 }], _
    exact List.forall_mem_singleton.mpr (told_of_any (by cbv))
  campaigns := by
    refine ⟨?_, by decide⟩
    show ∀ row ∈ [campaign], _
    exact List.forall_mem_singleton.mpr (told_of_any (by cbv))

theorem created_descends :
    Directory.SortOrder.ofText? "-created_at" = some ⟨.createdAt, true⟩ := by
  cbv

end Sample

end Api

end Outreach
