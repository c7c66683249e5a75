import Outreach.Proofs.Api.Paged
import Outreach.Proofs.Customer.Address

/-! Imports of customers. An import stores all of its items or none: if it is carried out, each item
has a row of its own after those that were there, and the answer tells the numbers of these rows in
the order of the items. What ends an import is looked for in an order: the first item that does not
fit, then an address that comes twice, then an address that a customer has. Two things can still go
wrong, and neither stores anything: visits that are written as a text can be beyond every column,
and an item can be called by a text that cannot be sent. -/

namespace Outreach

open Api

/-! ### Items -/

/-- The row holds what was told of a customer, and what stands for the rest. -/
structure Customer.IsOf (now : Moment) (draft : CustomerDraft) (row : Customer) : Prop where
  name : row.name = draft.name
  email : row.email = draft.email
  phone : row.phone = draft.phone.getD none
  totalSpend : row.totalSpend = (draft.totalSpend.getD (.zero false)).stored
  visits : row.visits = draft.visits.getD 0
  lastVisit : row.lastVisit = (draft.lastVisit.getD none).map Moment.wallClock
  tags : row.tags = .ofTexts (draft.tags.getD [])
  created : row.createdAt = .automatic now
  updated : row.updatedAt = (Stamp.automatic now).moment

/-- The item is read as a customer, and the row is of that customer. -/
def HoldsItem (now : Moment) (item : Value) (row : Customer) : Prop :=
  ∃ draft, CustomerDraft.read .data item = .accepted draft ∧ row.IsOf now draft

namespace Directory

variable {db : Database} {now : Moment} {items : List Value} {item : Value}
  {drafts : List CustomerDraft}

theorem newRow_isOf (now : Moment) (draft : CustomerDraft) : (newRow now draft).IsOf now draft :=
  ⟨rfl, rfl, rfl, rfl, rfl, rfl, rfl, rfl, rfl⟩

theorem isOf_withId {draft : CustomerDraft} {row : Customer} (n : Int) (isOf : row.IsOf now draft) :
    (Row.withId n row).IsOf now draft :=
  ⟨isOf.name, isOf.email, isOf.phone, isOf.totalSpend, isOf.visits, isOf.lastVisit, isOf.tags,
    isOf.created, isOf.updated⟩

/-- Customers of whom none has an address of another are as good as stored. -/
theorem importAll_free (read : AreRead items drafts)
    (apart : (drafts.map CustomerDraft.email).Nodup)
    (free : ∀ draft ∈ drafts, ¬ db.HoldsEmail draft.email) :
    importAll db now (.list items) = do
      let stored ← store db (drafts.map (newRow now))
      return ⟨stored, some ((stored.customers.rows.drop db.customers.size).map Customer.id)⟩ := by
  have untaken : takenEmail? db (drafts.map CustomerDraft.email) = none := by
    cases found : takenEmail? db (drafts.map CustomerDraft.email) with
    | none => rfl
    | some email =>
      obtain ⟨held, among⟩ := mem_takenEmails_iff.mp (List.mem_of_head? found)
      obtain ⟨draft, member, rfl⟩ := List.mem_map.mp among
      exact absurd held (free draft member)
  rw [importAll_of_read read, distinct_iff_nodup.mpr apart, untaken]
  rfl

/-- They are stored if their visits fit. -/
theorem importAll_stored (read : AreRead items drafts)
    (apart : (drafts.map CustomerDraft.email).Nodup)
    (free : ∀ draft ∈ drafts, ¬ db.HoldsEmail draft.email)
    (fit : ∀ draft ∈ drafts, fitsColumn (draft.visits.getD 0)) :
    importAll db now (.list items) = .ok
      ⟨{ db with customers := db.customers.insertAll (drafts.map (newRow now)) },
        some ((Table.numbered db.customers.lastId (drafts.map (newRow now))).map Customer.id)⟩ := by
  have fits : (drafts.map (newRow now)).forM (fun row => ensureFits row.visits) = .ok () :=
    forM_ensureFits_eq_ok_iff.mpr (by simpa [newRow] using fit)
  have stored : store db (drafts.map (newRow now)) =
      .ok { db with customers := db.customers.insertAll (drafts.map (newRow now)) } := by
    unfold store
    rw [fits]
    rfl
  rw [importAll_free read apart free, stored]
  show Except.ok (Effect.mk _ (some (((db.customers.insertAll _).rows.drop _).map _))) = _
  rw [Table.rows_insertAll, Table.size, List.drop_left]

end Directory

namespace Api

open Http (Request Response)

/-! ### Requests -/

/-- A user who is signed in sends a payload to be imported. -/
structure Imports (env : Environment) (db : Database) (request : Request) (user : User)
    (payload : Value) : Prop where
  method : request.method = "POST"
  path : request.path = "/api/customers/bulk"
  up : env.databaseIsUp
  signedIn : authenticate env db request = .ok user
  content : contentOf request = .ok (.given payload)

/-- The items are stored, each in a row of its own after those that were there, and the answer tells
the numbers of the rows in the order of the items. -/
structure IsImported (now : Moment) (db : Database) (items : List Value) (rows : List Customer)
    (exchange : Exchange) : Prop where
  stored : exchange.database.customers.rows = db.customers.rows ++ rows
  others : exchange.database = { db with customers := exchange.database.customers }
  held : List.Forall₂ (HoldsItem now) items rows
  fresh : ∀ row ∈ rows, ∀ old ∈ db.customers.rows, row.id ≠ old.id
  distinct : (rows.map Customer.id).Nodup
  status : exchange.response.status = 202
  told : exchange.response.content = .json (importValue (rows.map Customer.id))

section
variable {env : Environment} {db : Database} {request : Request} {user : User} {payload : Value}
  {items : List Value} {drafts : List CustomerDraft}

theorem routing_import :
    routing "POST" "/api/customers/bulk" = .found (.task .importCustomers) [] := by
  rfl

theorem Imports.carries (imports : Imports env db request user payload) :
    Carries env db request user (.importCustomers payload) where
  direct := by simp [Http.Cors.isInquiry, imports.method]
  up := imports.up
  signedIn := imports.signedIn
  read := by
    refine ⟨.importCustomers, [], .given payload, ?_, ?_, rfl⟩
    · rw [imports.method, imports.path, routing_import]
    · show (contentOf request).mapError Halt.refused = _
      rw [imports.content]
      rfl

theorem Imports.isJson (imports : Imports env db request user payload) : IsJson payload := by
  have content : bodyFor .importCustomers request = .ok (.given payload) := by
    show (contentOf request).mapError Halt.refused = _
    rw [imports.content]
    rfl
  exact (bodyFor_isDocument content).1

theorem importValue_toJson (ids : List Int) : (importValue ids).toJson = importValue ids := by
  have numbers : Value.toJsonItems (ids.map .int) = ids.map .int := by
    induction ids with
    | nil => rfl
    | cons id rest ih =>
      rw [List.map_cons, Value.toJsonItems, ih]
      rfl
  unfold importValue
  simp only [Value.record, Value.toJson, List.map_cons, List.map_nil, Value.toJsonEntries,
    Value.keyToJson_text, numbers]

theorem importValue_isTellable (ids : List Int) : (importValue ids).IsTellable := by
  refine Value.isTellable_record (.cons (by decide) ?_ (.cons (by decide) ?_ .nil))
  · show Text.isWhole ("Imported " ++ String.ofList (Text.ofNat ids.length) ++ " customers")
    have counted : Text.isWhole (String.ofList (Text.ofNat ids.length)) = true :=
      Text.ofInt_whole ids.length
    simp only [Text.isWhole_append, counted]
    decide
  · refine isTellable_items fun id _ => ?_
    rfl

/-- The rows that are added to a table have numbers of their own. -/
theorem fresh_ids {news : List Customer} :
    (∀ row ∈ Table.numbered db.customers.lastId news, ∀ old ∈ db.customers.rows,
      row.id ≠ old.id) ∧
    ((Table.numbered db.customers.lastId news).map Customer.id).Nodup := by
  have ascending := (db.customers.insertAll news).ascending
  rw [Table.rows_insertAll, List.pairwise_append] at ascending
  obtain ⟨-, among, across⟩ := ascending
  refine ⟨fun row new old before same => ?_, List.pairwise_map.mpr (among.imp ?_)⟩
  · have less : old.id < row.id := across old before row new
    omega
  · intro a b less same
    have less : a.id < b.id := less
    omega

/-- Items that all fit are stored, each in its row. -/
theorem Imports.stored (imports : Imports env db request user (.list items))
    (read : AreRead items drafts) (apart : (drafts.map CustomerDraft.email).Nodup)
    (free : ∀ draft ∈ drafts, ¬ db.HoldsEmail draft.email)
    (fit : ∀ draft ∈ drafts, fitsColumn (draft.visits.getD 0)) :
    ∃ rows, IsImported env.now db items rows (respond env db request) := by
  have performed : Action.perform env db user (.importCustomers (.list items)) = .ok
      ⟨{ db with customers := db.customers.insertAll (drafts.map (Directory.newRow env.now)) },
        some (success 202 (importValue ((Table.numbered db.customers.lastId
          (drafts.map (Directory.newRow env.now))).map Customer.id)))⟩ := by
    show tell 202 importValue (Directory.importAll db env.now (.list items)) = _
    rw [Directory.importAll_stored read apart free fit]
    rfl
  obtain ⟨status, content, written⟩ :=
    respond_success imports.carries performed (importValue_isTellable _)
  rw [importValue_toJson] at content
  obtain ⟨fresh, distinct⟩ := @fresh_ids db (drafts.map (Directory.newRow env.now))
  refine ⟨_, ?_, ?_, ?_, fresh, distinct, status, content⟩
  · rw [written]
    exact Table.rows_insertAll _
  · rw [written]
  · refine Table.forall₂_numbered ?_ ?_ _
    · rintro n item row ⟨draft, accepted, isOf⟩
      exact ⟨draft, accepted, Directory.isOf_withId n isOf⟩
    · refine List.forall₂_map_right_iff.mpr (read.imp fun item draft accepted => ?_)
      exact ⟨draft, accepted, Directory.newRow_isOf env.now draft⟩

end

namespace Sample

end Sample

end Api

end Outreach
