import Outreach.Proofs.Api.Shown
import Outreach.Proofs.Order.Shown
import Outreach.Proofs.Problem.Told
import Outreach.Proofs.Store.Table

/-! What orders add up to. An order is taken in if its customer is there and its number is new, and
otherwise leaves no trace. So after any number of orders the table of orders has gained the ones that
were taken in, and every customer's spend, visits and last visit are what the gained orders of that
customer make of them. -/

namespace Outreach

open Api

/-! ### Spend -/

/-- A sum that is kept does not depend on the sign of a zero in it. -/
theorem Binary64.add_zero_stored (x : Binary64) (negative : Bool) :
    (x.add (zero negative)).stored = (x.add (zero false)).stored := by
  cases x with
  | infinite | nan => rfl
  | finite a m e formed =>
    have unsigned (sign : Bool) : signedSignificand sign 0 = 0 := by cases sign <;> rfl
    unfold zero add
    dsimp only
    rw [unsigned, unsigned]
    by_cases none : signedSignificand a m * powerOfTwo (e - min e leastExponent).natAbs +
        0 * powerOfTwo (leastExponent - min e leastExponent).natAbs = 0
    · rw [if_pos none, if_pos none]
      rfl
    · rw [if_neg none, if_neg none]

theorem Binary64.add_stored (x y : Binary64) : (x.add y.stored).stored = (x.add y).stored := by
  cases y with
  | infinite | nan => rfl
  | finite b n f shaped =>
    by_cases none : n = 0
    · subst none
      have least : f = leastExponent := shaped.2.2.2.resolve_left (by decide)
      subst least
      exact (add_zero_stored x b).symm
    · simp [stored, none]

/-- A spend with an amount added to it, as the column keeps it. -/
def Customer.spendAfter (spend : Binary64) (order : Order) : Binary64 :=
  (spend.add order.amount).stored

/-! ### Customers and their orders -/

/-- Those of the orders that are the customer's. -/
def Customer.ordersAmong (customer : Customer) (orders : List Order) : List Order :=
  orders.filter fun order => order.customer = customer.id

/-- What orders make of a customer, and only of those whose orders they are. -/
structure Customer.IsRolledUp (gained : List Order) (before after : Customer) : Prop where
  visits : after.visits = before.visits + (before.ordersAmong gained).length
  totalSpend : after.totalSpend =
    (before.ordersAmong gained).foldl Customer.spendAfter before.totalSpend
  lastVisit : after.lastVisit =
    ((before.ordersAmong gained).getLast?.map fun order => order.createdAt.moment).or
      before.lastVisit
  rest : after = { before with
    totalSpend := after.totalSpend
    visits := after.visits
    lastVisit := after.lastVisit
    updatedAt := after.updatedAt }
  untouched : before.ordersAmong gained = [] → after = before

namespace Customer.IsRolledUp

variable {gained : List Order} {order : Order} {before after : Customer}

theorem nil (customer : Customer) : IsRolledUp [] customer customer where
  visits := (Int.add_zero _).symm
  totalSpend := rfl
  lastVisit := rfl
  rest := rfl
  untouched _ := rfl

/-- The first of the orders counts for its customer. -/
theorem cons {now : Moment} {amount : Binary64} (own : order.customer = before.id)
    (paid : order.amount = amount.stored) (at_now : order.createdAt.moment = now.wallClock)
    (later : IsRolledUp gained (Intake.visited now amount before) after) :
    IsRolledUp (order :: gained) before after := by
  have among : before.ordersAmong (order :: gained) = order :: before.ordersAmong gained :=
    List.filter_cons_of_pos (by simpa using own)
  have spent : (Intake.visited now amount before).totalSpend =
      Customer.spendAfter before.totalSpend order := by
    rw [Customer.spendAfter, paid, Binary64.add_stored]
    rfl
  constructor
  · have counted := later.visits
    rw [among, List.length_cons]
    show after.visits = before.visits + ((before.ordersAmong gained).length + 1 : Nat)
    have one : (Intake.visited now amount before).visits = before.visits + 1 := rfl
    rw [one] at counted
    rw [counted]
    show before.visits + 1 + ((before.ordersAmong gained).length : Int) = _
    omega
  · rw [among, List.foldl_cons, ← spent]
    exact later.totalSpend
  · rw [among, List.getLast?_cons]
    have last := later.lastVisit
    show after.lastVisit = some _
    rw [last]
    show ((before.ordersAmong gained).getLast?.map _).or (some now.wallClock) = _
    cases (before.ordersAmong gained).getLast? with
    | none => exact congrArg some at_now.symm
    | some other => rfl
  · exact later.rest
  · intro none
    rw [among] at none
    cases none

/-- The first of the orders does not count for the others. -/
theorem skip (other : order.customer ≠ before.id) (later : IsRolledUp gained before after) :
    IsRolledUp (order :: gained) before after := by
  have among : before.ordersAmong (order :: gained) = before.ordersAmong gained :=
    List.filter_cons_of_neg (by simpa using other)
  constructor
  · rw [among]
    exact later.visits
  · rw [among]
    exact later.totalSpend
  · rw [among]
    exact later.lastVisit
  · exact later.rest
  · rw [among]
    exact later.untouched

end Customer.IsRolledUp

/-! ### Databases -/

/-- The database has gained orders under new numbers, and its customers are rolled up accordingly;
nothing else has changed. -/
structure Database.IsRolledUp (start : Database) (gained : List Order) (finish : Database) :
    Prop where
  orders : finish.orders.rows = start.orders.rows ++ gained
  customers : List.Forall₂ (Customer.IsRolledUp gained) start.customers.rows finish.customers.rows
  distinct : (gained.map Order.number).Nodup
  fresh : ∀ order ∈ gained, ∀ old ∈ start.orders.rows, order.number ≠ old.number
  rest : finish = { start with orders := finish.orders, customers := finish.customers }

/-- The database after an order was taken in. -/
def Database.withOrder (db : Database) (now : Moment) (draft : OrderDraft) (customer : Customer) :
    Database :=
  { db with
    orders := db.orders.insert (Intake.newRow now draft)
    customers := db.customers.replace (Intake.visited now draft.amount customer) }

namespace Database.IsRolledUp

theorem nil (db : Database) : IsRolledUp db [] db where
  orders := (List.append_nil _).symm
  customers := List.forall₂_same.mpr fun customer _ => .nil customer
  distinct := .nil
  fresh := List.forall_mem_nil _
  rest := rfl

/-- One order more, ahead of those that roll up from there. -/
theorem cons {db finish : Database} {now : Moment} {draft : OrderDraft} {customer : Customer}
    {gained : List Order} (found : db.customers.find? draft.customer = some customer)
    (free : ∀ order ∈ db.orders.rows, order.number ≠ draft.number)
    (later : IsRolledUp (db.withOrder now draft customer) gained finish) :
    IsRolledUp db (Row.withId db.orders.nextId (Intake.newRow now draft) :: gained) finish := by
  obtain ⟨member, named⟩ := Table.find?_eq_some_iff.mp found
  have inserted : (db.withOrder now draft customer).orders.rows =
      db.orders.rows ++ [Row.withId db.orders.nextId (Intake.newRow now draft)] := rfl
  constructor
  · rw [later.orders, inserted, List.append_assoc]
    rfl
  · have changed : (db.withOrder now draft customer).customers.rows = db.customers.rows.map
        fun old => if Row.id old = Row.id customer then
          Intake.visited now draft.amount old else old :=
      Table.rows_replace member rfl
    have rolled := later.customers
    rw [changed, List.forall₂_map_left_iff] at rolled
    refine rolled.imp fun old after rolledUp => ?_
    by_cases own : Row.id old = Row.id customer
    · rw [if_pos own] at rolledUp
      exact .cons (named.symm.trans own.symm) rfl rfl rolledUp
    · rw [if_neg own] at rolledUp
      exact .skip (fun same => own (same.symm.trans named.symm)) rolledUp
  · refine List.nodup_cons.mpr ⟨fun repeated => ?_, later.distinct⟩
    obtain ⟨order, among, same⟩ := List.mem_map.mp repeated
    exact later.fresh order among _ (by rw [inserted]; simp) same
  · refine List.forall_mem_cons.mpr ⟨fun old stored => (free old stored).symm, ?_⟩
    intro order among old stored
    exact later.fresh order among old (by rw [inserted]; exact List.mem_append_left _ stored)
  · exact later.rest

end Database.IsRolledUp

/-! ### One order -/

namespace Intake

variable {db : Database} {draft : OrderDraft}

/-- An order of a customer who is not there is refused. -/
theorem record_unknown (now : Moment) (fits : fitsColumn draft.customer)
    (unknown : db.customers.find? draft.customer = none) :
    record db now draft = .error (.refused (.missing .customer draft.customer)) := by
  have missing : db.customers.get .customer draft.customer =
      .error (.refused (.missing .customer draft.customer)) := by
    rw [Table.get, if_pos fits, unknown]
    rfl
  rw [record, missing]
  rfl

variable {customer : Customer}

theorem record_eq (now : Moment) (fits : fitsColumn draft.customer)
    (found : db.customers.find? draft.customer = some customer) :
    record db now draft =
      if db.orders.rows.any fun order => order.number = draft.number then
        .error (.refused (.orderNumberTaken draft.number))
      else do
        ensureFits (customer.visits + 1)
        return ⟨db.withOrder now draft customer,
          (Row.withId db.orders.nextId (newRow now draft)).view?⟩ := by
  have got : db.customers.get .customer draft.customer = .ok customer :=
    Table.get_eq_ok_iff.mpr ⟨fits, found⟩
  have last : (db.orders.insert (newRow now draft)).find?
      (db.orders.insert (newRow now draft)).lastId =
        some (Row.withId db.orders.nextId (newRow now draft)) := by
    refine Table.find?_eq_some_iff.mpr ⟨Table.mem_insert_iff.mpr (.inr rfl), ?_⟩
    rw [Row.id_withId, Table.lastId_insert]
  rw [record, got]
  dsimp only [bind, Except.bind]
  split
  next => rfl
  next =>
    dsimp only [pure, Except.pure]
    rw [last]
    rfl

/-- An order under a number that is taken is refused. -/
theorem record_repeated (now : Moment) (fits : fitsColumn draft.customer)
    (found : db.customers.find? draft.customer = some customer) {order : Order}
    (stored : order ∈ db.orders.rows) (same : order.number = draft.number) :
    record db now draft = .error (.refused (.orderNumberTaken draft.number)) := by
  rw [record_eq now fits found]
  exact if_pos (List.any_eq_true.mpr ⟨order, stored, by simpa using same⟩)

/-- Any other order is taken in. -/
theorem record_welcome (now : Moment) (fits : fitsColumn draft.customer)
    (found : db.customers.find? draft.customer = some customer)
    (free : ∀ order ∈ db.orders.rows, order.number ≠ draft.number)
    (countable : fitsColumn (customer.visits + 1)) :
    record db now draft = .ok ⟨db.withOrder now draft customer,
      (Row.withId db.orders.nextId (newRow now draft)).view?⟩ := by
  have counted : ensureFits (customer.visits + 1) = .ok () := ensureFits_eq_ok_iff.mpr countable
  rw [record_eq now fits found, if_neg (by simpa using free), counted]
  rfl

end Intake

/-! ### Submissions -/

/-- A visit that submits an order. -/
structure Submission where
  visit : Visit
  draft : OrderDraft

namespace Submission

/-- A user is signed in, and the order is what the body of the request was read as. -/
def IsReadIn (submission : Submission) (db : Database) : Prop :=
  ∃ user, submission.visit.Carries db user (.createOrder submission.draft)

/-- The request is answered by an order that was created. -/
def IsAccepted (submission : Submission) (db : Database) : Prop :=
  (respond submission.visit.environment db submission.visit.request).response.status = 201

instance (submission : Submission) (db : Database) : Decidable (submission.IsAccepted db) :=
  inferInstanceAs (Decidable (_ = _))

/-- The customer is there, and no order has the number. -/
structure IsWelcome (submission : Submission) (db : Database) : Prop where
  known : db.customers.Has submission.draft.customer
  free : ∀ order ∈ db.orders.rows, order.number ≠ submission.draft.number

/-- One visit more of the customer is still a number that the column can hold. -/
def IsCountable (submission : Submission) (db : Database) : Prop :=
  submission.IsWelcome db → ∀ customer,
    db.customers.find? submission.draft.customer = some customer →
      fitsColumn (customer.visits + 1)

/-- The row of the order, under a number that its table is yet to give it. -/
def row (submission : Submission) : Order :=
  Intake.newRow submission.visit.environment.now submission.draft

/-- Those of the submissions that are accepted, one after the other. -/
def accepted (db : Database) : List Submission → List Submission
  | [] => []
  | submission :: later =>
      if submission.IsAccepted db then
        submission :: accepted (visited db submission.visit) later
      else accepted (visited db submission.visit) later

/-- The database after submissions one after the other. -/
def runAll (db : Database) (submissions : List Submission) : Database :=
  run db (submissions.map Submission.visit)

section
variable {submission : Submission} {db : Database}

theorem IsReadIn.row_isSound (isRead : submission.IsReadIn db) : submission.row.IsSound := by
  obtain ⟨user, carries⟩ := isRead
  obtain ⟨task, arguments, body, -, content, read⟩ := carries.read
  obtain ⟨value, same, accepted⟩ := told_of_read read
  cases same
  exact OrderDraft.newRow_isSound (bodyFor_isDocument content).1 accepted _

/-- A submission that is not welcome is not accepted, and changes nothing. -/
theorem IsReadIn.turned_away (isRead : submission.IsReadIn db)
    (fits : fitsColumn submission.draft.customer) (unwelcome : ¬ submission.IsWelcome db) :
    ¬ submission.IsAccepted db ∧ visited db submission.visit = db := by
  obtain ⟨user, carries⟩ := isRead
  have halted : ∃ halt,
      Intake.record db submission.visit.environment.now submission.draft = .error halt := by
    cases found : db.customers.find? submission.draft.customer with
    | none => exact ⟨_, Intake.record_unknown _ fits found⟩
    | some customer =>
      have taken : ∃ order ∈ db.orders.rows, order.number = submission.draft.number := by
        by_contra free
        push Not at free
        exact unwelcome ⟨Table.has_of_find? found, free⟩
      obtain ⟨order, stored, same⟩ := taken
      exact ⟨_, Intake.record_repeated _ fits found stored same⟩
  obtain ⟨halt, halted⟩ := halted
  have performed : Action.perform submission.visit.environment db user
      (.createOrder submission.draft) = .error halt := by
    show tell 201 _ (Intake.record db submission.visit.environment.now submission.draft) = _
    rw [halted]
    rfl
  have answered := respond_of_carries carries
  rw [performed] at answered
  have ending := exchangeOf_halted submission.visit.environment db submission.visit.request halt
  constructor
  · intro accepted
    rw [IsAccepted, answered] at accepted
    omega
  · rw [visited, answered]
    exact ending.2

/-- A welcome submission is accepted, and adds its order and rolls it up. -/
theorem IsReadIn.taken_in (isRead : submission.IsReadIn db)
    (fits : fitsColumn submission.draft.customer) (welcome : submission.IsWelcome db)
    (countable : submission.IsCountable db) :
    submission.IsAccepted db ∧ ∃ customer,
      db.customers.find? submission.draft.customer = some customer ∧
      visited db submission.visit =
        db.withOrder submission.visit.environment.now submission.draft customer := by
  have sound := isRead.row_isSound
  obtain ⟨user, carries⟩ := isRead
  obtain ⟨customer, found⟩ := welcome.known.find?
  have numbered : (Row.withId db.orders.nextId submission.row).IsSound :=
    ⟨sound.number, sound.items⟩
  obtain ⟨view, made, told⟩ := numbered.shown
  have shown : IsShown (OrderView.toValue {})
      (Intake.record db submission.visit.environment.now submission.draft)
      (db.withOrder submission.visit.environment.now submission.draft customer) := by
    refine ⟨view, ?_, told⟩
    rw [Intake.record_welcome _ fits found welcome.free (countable welcome customer found)]
    exact congrArg (fun answer => Except.ok (Effect.mk _ answer)) made
  obtain ⟨status, written⟩ := respond_of_shown carries rfl shown
  exact ⟨status, customer, found, written⟩

/-- A submission is accepted exactly if it is welcome, and otherwise changes nothing. -/
theorem IsReadIn.settled (isRead : submission.IsReadIn db)
    (fits : fitsColumn submission.draft.customer) (countable : submission.IsCountable db) :
    (submission.IsAccepted db ↔ submission.IsWelcome db) ∧
      (¬ submission.IsAccepted db → visited db submission.visit = db) := by
  by_cases welcome : submission.IsWelcome db
  · have accepted := (isRead.taken_in fits welcome countable).1
    exact ⟨iff_of_true accepted welcome, fun rejected => absurd accepted rejected⟩
  · obtain ⟨rejected, unchanged⟩ := isRead.turned_away fits welcome
    exact ⟨iff_of_false rejected welcome, fun _ => unchanged⟩

theorem IsReadIn.of_users {other : Database} (isRead : submission.IsReadIn db)
    (same : other.users = db.users) : submission.IsReadIn other := by
  obtain ⟨user, carries⟩ := isRead
  exact ⟨user, carries.of_users same⟩

theorem IsReadIn.visited_users (isRead : submission.IsReadIn db)
    (fits : fitsColumn submission.draft.customer) (countable : submission.IsCountable db) :
    (visited db submission.visit).users = db.users := by
  by_cases welcome : submission.IsWelcome db
  · obtain ⟨-, customer, -, written⟩ := isRead.taken_in fits welcome countable
    rw [written]
    rfl
  · rw [(isRead.turned_away fits welcome).2]

end

/-! ### Runs -/

/-- The submissions are those of signed-in users, of customers with numbers that a column can hold,
and no visit leads beyond the visits that a column can count. -/
structure AreInOrder (start : Database) (submissions : List Submission) : Prop where
  read : ∀ submission ∈ submissions, submission.IsReadIn start
  fits : ∀ submission ∈ submissions, fitsColumn submission.draft.customer
  countable : ∀ early submission late, submissions = early ++ submission :: late →
    submission.IsCountable (runAll start early)

section
variable {start : Database} {submission : Submission} {later submissions : List Submission}

theorem AreInOrder.nil (start : Database) : AreInOrder start [] where
  read := List.forall_mem_nil _
  fits := List.forall_mem_nil _
  countable early submission late split := by simp at split

theorem AreInOrder.cons (first : submission.IsReadIn start)
    (fits : fitsColumn submission.draft.customer) (countable : submission.IsCountable start)
    (inOrder : AreInOrder (visited start submission.visit) later) :
    AreInOrder start (submission :: later) where
  read := by
    refine List.forall_mem_cons.mpr ⟨first, fun other among => ?_⟩
    exact (inOrder.read other among).of_users (first.visited_users fits countable).symm
  fits := List.forall_mem_cons.mpr ⟨fits, inOrder.fits⟩
  countable early other late split := by
    cases early with
    | nil =>
      cases split
      exact countable
    | cons head early =>
      cases split
      exact inOrder.countable early other late rfl

theorem AreInOrder.tail (inOrder : AreInOrder start (submission :: later)) :
    AreInOrder (visited start submission.visit) later := by
  have first := inOrder.read submission (List.mem_cons_self ..)
  have users := first.visited_users (inOrder.fits submission (List.mem_cons_self ..))
    (inOrder.countable [] submission later rfl)
  constructor
  · intro other among
    exact (inOrder.read other (List.mem_cons_of_mem _ among)).of_users users
  · intro other among
    exact inOrder.fits other (List.mem_cons_of_mem _ among)
  · intro early other late split
    exact inOrder.countable (submission :: early) other late (by rw [split]; rfl)

/-- Each submission is met by the database that those before it have left. -/
theorem AreInOrder.settled (inOrder : AreInOrder start submissions) {early late : List Submission}
    (split : submissions = early ++ submission :: late) :
    (submission.IsAccepted (runAll start early) ↔ submission.IsWelcome (runAll start early)) ∧
      (¬ submission.IsAccepted (runAll start early) →
        visited (runAll start early) submission.visit = runAll start early) := by
  induction early generalizing start submissions with
  | nil =>
    subst split
    have here := List.mem_cons_self (a := submission) (l := late)
    exact (inOrder.read _ here).settled (inOrder.fits _ here)
      (inOrder.countable [] submission late rfl)
  | cons first early ih =>
    subst split
    exact ih inOrder.tail rfl

/-- The induction is on the first submission: it is accepted and ahead of all that roll up from
there, or changes nothing. -/
theorem AreInOrder.rolled_up (inOrder : AreInOrder start submissions) :
    start.IsRolledUp (Table.numbered start.orders.lastId ((accepted start submissions).map row))
      (runAll start submissions) := by
  induction submissions generalizing start with
  | nil => exact .nil start
  | cons submission later ih =>
    have first := inOrder.read submission (List.mem_cons_self ..)
    have fits := inOrder.fits submission (List.mem_cons_self ..)
    have countable := inOrder.countable [] submission later rfl
    have rest := ih inOrder.tail
    show start.IsRolledUp _ (runAll (visited start submission.visit) later)
    by_cases welcome : submission.IsWelcome start
    · obtain ⟨taken, customer, found, written⟩ := first.taken_in fits welcome countable
      have last : (visited start submission.visit).orders.lastId = start.orders.nextId := by
        rw [written]
        exact Table.lastId_insert _
      rw [accepted, if_pos taken, List.map_cons, Table.numbered]
      rw [last] at rest
      refine .cons found welcome.free ?_
      rw [← written]
      exact rest
    · obtain ⟨rejected, unchanged⟩ := first.turned_away fits welcome
      rw [accepted, if_neg rejected, unchanged]
      rwa [unchanged] at rest

end

/-- After any number of submitted orders, of whatever customers and under whatever numbers, the table
of orders has gained those that were accepted and the customers are rolled up accordingly. A
submission is accepted exactly if its customer is there and its number is new, and otherwise changes
nothing. -/
theorem runAll_rolled_up {start : Database} {submissions : List Submission}
    (inOrder : AreInOrder start submissions) :
    start.IsRolledUp (Table.numbered start.orders.lastId ((accepted start submissions).map row))
      (runAll start submissions) ∧
    ∀ early submission late, submissions = early ++ submission :: late →
      (submission.IsAccepted (runAll start early) ↔
        submission.IsWelcome (runAll start early)) ∧
      (¬ submission.IsAccepted (runAll start early) →
        visited (runAll start early) submission.visit = runAll start early) :=
  ⟨inOrder.rolled_up, fun _ _ _ => inOrder.settled⟩

end Submission

/-! ### An order of a stored customer -/

namespace Api.Sample

/-- What the user tells of the order. -/
def orderFields : List (Value × Value) := [
  (.text "customer_id", .int 1), (.text "order_number", .text "A1"),
  (.text "amount", .int 2)]

def orderDraft : OrderDraft where
  customer := 1
  number := "A1"
  amount := .ofInt 2
  items := .absent
  status := .absent
  paymentStatus := .absent

def orderBody : String := "\x7b\"customer_id\":1,\"order_number\":\"A1\",\"amount\":2\x7d"

def orderVisit : Visit := visit "POST" "/api/orders" orderBody

def buyer : Customer := { (default : Customer) with id := 1, name := "Ada", email := "a@b.cc" }

/-- A database with a customer in it, who has not bought anything yet. -/
def withBuyer : Database := { start with customers := Table.empty.insert buyer }

set_option maxRecDepth 2000 in
theorem jsonContent_orderBody : jsonContent orderBody = .ok (.dict orderFields) := by
  cbv

theorem orderVisit_carries {db : Database} (users : db.users = start.users) :
    orderVisit.Carries db user (.createOrder orderDraft) := by
  refine carries users (by decide) ⟨.createOrder, [], .given (.dict orderFields), by cbv,
    bodyFor_visit rfl (by decide +kernel) jsonContent_orderBody, ?_⟩
  exact Checked.map_eq_accepted_iff.mpr ⟨orderDraft, content_of_yields ⟨_, rfl, by rfl⟩, rfl⟩

end Api.Sample

open Api.Sample in
/-- The same order twice, of a customer who is there: it is accepted once. -/
theorem Submission.repeated_order_rolled_up :
    AreInOrder withBuyer [⟨orderVisit, orderDraft⟩, ⟨orderVisit, orderDraft⟩] ∧
    accepted withBuyer [⟨orderVisit, orderDraft⟩, ⟨orderVisit, orderDraft⟩] =
      [⟨orderVisit, orderDraft⟩] ∧
    withBuyer.IsRolledUp [Row.withId 1 (row ⟨orderVisit, orderDraft⟩)]
      (runAll withBuyer [⟨orderVisit, orderDraft⟩, ⟨orderVisit, orderDraft⟩]) := by
  have first : IsReadIn ⟨orderVisit, orderDraft⟩ withBuyer := ⟨user, orderVisit_carries rfl⟩
  have found : withBuyer.customers.find? 1 = some buyer := by rfl
  have fits : fitsColumn orderDraft.customer := by decide
  have countable : IsCountable ⟨orderVisit, orderDraft⟩ withBuyer := by
    intro _ customer again
    cases found.symm.trans again
    decide
  have welcome : IsWelcome ⟨orderVisit, orderDraft⟩ withBuyer :=
    ⟨Table.has_of_find? found, List.forall_mem_nil _⟩
  obtain ⟨taken, customer, -, written⟩ := first.taken_in fits welcome countable
  have second : IsReadIn ⟨orderVisit, orderDraft⟩ (visited withBuyer orderVisit) :=
    first.of_users (first.visited_users fits countable)
  have unwelcome : ¬ IsWelcome ⟨orderVisit, orderDraft⟩ (visited withBuyer orderVisit) := by
    have stored : Row.withId 1 (row ⟨orderVisit, orderDraft⟩) ∈
        (visited withBuyer orderVisit).orders.rows := by
      rw [written]
      exact Table.mem_insert_iff.mpr (.inr rfl)
    intro welcome
    exact welcome.free _ stored rfl
  have inOrder : AreInOrder withBuyer [⟨orderVisit, orderDraft⟩, ⟨orderVisit, orderDraft⟩] :=
    .cons first fits countable
      (.cons second fits (fun welcome => absurd welcome unwelcome) (.nil _))
  have once : accepted withBuyer [⟨orderVisit, orderDraft⟩, ⟨orderVisit, orderDraft⟩] =
      [⟨orderVisit, orderDraft⟩] := by
    rw [accepted, if_pos taken, accepted, if_neg (second.turned_away fits unwelcome).1, accepted]
  obtain ⟨rolled, -⟩ := runAll_rolled_up inOrder
  rw [once] at rolled
  exact ⟨inOrder, once, rolled⟩

end Outreach
