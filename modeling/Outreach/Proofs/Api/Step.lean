import Outreach.Api.Application
import Outreach.Proofs.Api.Write
import Outreach.Proofs.Json.Tree
import Outreach.Proofs.Schema.Accepted
import Outreach.Proofs.User.Stored

/-! What one request does to the database, and what a run of requests does. A request leaves the
database as it was, or stores the user who signs in, or makes the write of an action of a signed-in
user. Whatever each of these keeps is kept by every run. -/

namespace Outreach.Api

open Http (Request)

/-- The body of a request as a task reads it. -/
def bodyFor (task : Task) (request : Request) : Except Halt (Entry Value) :=
  if task.readsBody then (contentOf request).mapError .refused else .ok .absent

/-- A request that gets as far as the action of a signed-in user. -/
structure Carries (env : Environment) (db : Database) (request : Request) (user : User)
    (action : Action) : Prop where
  direct : Http.Cors.isInquiry request = false
  up : env.databaseIsUp
  signedIn : authenticate env db request = .ok user
  read : ∃ task arguments body,
    routing request.method request.path = .found (.task task) arguments ∧
    bodyFor task request = .ok body ∧
    task.read ⟨arguments, request.parameters, body⟩ = .accepted action

/-- Of the database, only the users decide whether a request gets so far. -/
theorem Carries.of_users {env : Environment} {db other : Database} {request : Request}
    {user : User} {action : Action} (carries : Carries env db request user action)
    (same : other.users = db.users) : Carries env other request user action where
  direct := carries.direct
  up := carries.up
  signedIn := by
    have signedIn := carries.signedIn
    unfold authenticate at signedIn ⊢
    rwa [same]
  read := carries.read

/-- What is found is offered by a route of the method, along the steps that the path follows. -/
theorem routing_found {method path : String} {operation : Operation} {arguments : Arguments}
    (routed : routing method path = .found operation arguments) :
    ∃ route ∈ Route.all, route.method = method ∧ route.operation = operation ∧
      follow? route.steps (pathParts path) = some arguments := by
  unfold routing at routed
  split at routed
  next fit found =>
    cases routed
    obtain ⟨route, member, followed⟩ := List.mem_filterMap.mp (List.mem_of_find?_eq_some found)
    obtain ⟨given, along, rfl⟩ := Option.map_eq_some_iff.mp followed
    exact ⟨route, member, by simpa using List.find?_some found, rfl, along⟩
  next =>
    split at routed
    next => cases routed
    next =>
      unfold misfit at routed
      dsimp only at routed
      split at routed <;> cases routed

/-- What comes of the outcome of an action. -/
def exchangeOf (env : Environment) (db : Database) (request : Request) :
    Except Halt (Effect Http.Response) → Exchange
  | .ok effect => ⟨sent request (responseOf env request effect), effect.database, []⟩
  | .error (.refused refusal) =>
      ⟨sent request (handedOut env request (refusalResponse env request refusal)), db, []⟩
  | .error (.failed mishap) => ⟨sent request (failureResponse env request mishap), db, []⟩

section
variable {env : Environment} {db : Database} {request : Request} {user : User} {action : Action}

/-- A request is answered by what becomes of it, unless it only asks whether it may be sent. -/
theorem respond_eq (direct : Http.Cors.isInquiry request = false) :
    respond env db request = { exchangeOf env db request (handle env db request).outcome with
      calls := (handle env db request).calls } := by
  unfold respond
  rw [direct]
  obtain ⟨calls, outcome⟩ := handle env db request
  cases outcome with
  | ok effect => rfl
  | error halt => cases halt <;> rfl

/-- Asking whether a request may be sent is answered without a look at the database. -/
theorem respond_inquiry (asks : Http.Cors.isInquiry request = true) :
    respond env db request = ⟨sent request ((Http.Cors.answer env.startup.clientUrl
      request).withHeaders (traceHeaders (traceOf env request))), db, []⟩ := by
  unfold respond
  rw [asks]
  rfl

theorem carryOut_eq (task : Task) (arguments : Arguments) :
    carryOut env db request task arguments = (do
      let body ← bodyFor task request
      ensure env.databaseIsUp
      let user ← authenticate env db request
      match task.read ⟨arguments, request.parameters, body⟩ with
      | .accepted action => action.perform env db user
      | .rejected issues => refuse (.invalidRequest issues)) := by
  unfold carryOut bodyFor
  cases task.readsBody <;> rfl

theorem carryOut_of_carries {task : Task} {arguments : Arguments} {body : Entry Value}
    (up : env.databaseIsUp) (signedIn : authenticate env db request = .ok user)
    (content : bodyFor task request = .ok body)
    (read : task.read ⟨arguments, request.parameters, body⟩ = .accepted action) :
    carryOut env db request task arguments = action.perform env db user := by
  have passed : ensure env.databaseIsUp = .ok () := by
    rw [up]
    rfl
  rw [carryOut_eq, content, passed, signedIn]
  show (match task.read ⟨arguments, request.parameters, body⟩ with
    | .accepted action => action.perform env db user
    | .rejected issues => refuse (.invalidRequest issues)) = _
  rw [read]

/-- A request that is carried out is answered by what its action comes to. -/
theorem respond_of_carries (carries : Carries env db request user action) :
    respond env db request = exchangeOf env db request (action.perform env db user) := by
  obtain ⟨direct, up, signedIn, task, arguments, body, routed, content, read⟩ := carries
  have handled : handle env db request = ⟨[], action.perform env db user⟩ := by
    unfold handle
    rw [routed]
    dsimp only [operate]
    rw [carryOut_of_carries up signedIn content read]
  rw [respond_eq direct, handled]
  cases action.perform env db user with
  | ok effect => rfl
  | error halt => cases halt <;> rfl

theorem carryOut_ok {task : Task} {arguments : Arguments} {effect : Effect Http.Response}
    (direct : Http.Cors.isInquiry request = false)
    (routed : routing request.method request.path = .found (.task task) arguments)
    (done : carryOut env db request task arguments = .ok effect) :
    ∃ user action, Carries env db request user action ∧
      action.perform env db user = .ok effect := by
  rw [carryOut_eq] at done
  obtain ⟨body, content, done⟩ := bind_eq_ok_iff.mp done
  obtain ⟨_, passed, done⟩ := bind_eq_ok_iff.mp done
  obtain ⟨user, signedIn, done⟩ := bind_eq_ok_iff.mp done
  have up : env.databaseIsUp := by
    by_contra down
    simp [ensure, down, mishap] at passed
  split at done
  next action read =>
    exact ⟨user, action, ⟨direct, up, signedIn, task, arguments, body, routed, content, read⟩, done⟩
  next => cases done

theorem begin_ok {settings : Settings} {now : Moment} {profile : SignInProfile}
    {effect : Effect SignIn.Ending} (begun : SignIn.begin settings db now profile = .ok effect) :
    ∃ user, Users.upsert db now profile = .ok (effect.database, user) := by
  obtain ⟨⟨stored, user⟩, upserted, rest⟩ := bind_eq_ok_iff.mp begun
  dsimp only at rest
  split at rest
  next =>
    cases rest
    exact ⟨user, upserted⟩
  next =>
    cases rest
    exact ⟨user, upserted⟩

/-- The only thing that a sign-in does to the database is to store the user who signs in. -/
theorem completeSignIn_ok {effect : Effect Http.Response}
    (done : (completeSignIn env db request).2 = .ok effect) :
    effect.database = db ∨
      ∃ profile user, Users.upsert db env.now profile = .ok (effect.database, user) := by
  unfold completeSignIn at done
  extract_lets kept back at done
  obtain ⟨inner, completed, rfl⟩ := map_eq_ok_iff.mp done
  unfold SignIn.complete at completed
  split at completed
  next => cases completed
  next =>
    cases completed
    exact .inl rfl
  next code _ =>
    dsimp only at completed
    split at completed
    next profile _ =>
      obtain ⟨user, stored⟩ := begin_ok completed
      exact .inr ⟨profile, user, stored⟩
    next =>
      split at completed
      next =>
        cases completed
        exact .inl rfl
      next => cases completed

end

/-! ### One request -/

/-- What a request may make of the database. -/
inductive Change (env : Environment) (db : Database) (request : Request) : Database → Prop where
  | nothing : Change env db request db
  | signIn {profile : SignInProfile} {user : User} {stored : Database}
      (upserted : Users.upsert db env.now profile = .ok (stored, user)) :
      Change env db request stored
  | action {user : User} {action : Action} {written : Database}
      (carries : Carries env db request user action) (write : Write env db user action written) :
      Change env db request written

section
variable {env : Environment} {db : Database} {request : Request}

theorem answered_change {outcome : Except Halt Http.Response} {effect : Effect Http.Response}
    (done : (answered db outcome).outcome = .ok effect) :
    Change env db request effect.database := by
  obtain ⟨response, -, rfl⟩ := map_eq_ok_iff.mp done
  exact .nothing

theorem operate_change {operation : Operation} {arguments : Arguments}
    {effect : Effect Http.Response} (direct : Http.Cors.isInquiry request = false)
    (routed : routing request.method request.path = .found operation arguments)
    (done : (operate env db request operation arguments).outcome = .ok effect) :
    Change env db request effect.database := by
  cases operation with
  | root => exact answered_change done
  | health => exact answered_change done
  | consent => exact answered_change done
  | signOut => exact answered_change done
  | signIn =>
    simp only [operate] at done
    split at done
    next =>
      rcases completeSignIn_ok done with same | ⟨profile, user, stored⟩
      · rw [same]
        exact .nothing
      · exact .signIn stored
    next => cases done
  | task task =>
    obtain ⟨user, action, carries, performed⟩ := carryOut_ok direct routed done
    rcases perform_cases performed with same | write
    · rw [same]
      exact .nothing
    · exact .action carries write

theorem handle_change {effect : Effect Http.Response}
    (direct : Http.Cors.isInquiry request = false)
    (done : (handle env db request).outcome = .ok effect) :
    Change env db request effect.database := by
  unfold handle at done
  split at done
  next routed => exact operate_change direct routed done
  next => exact answered_change done
  next => exact answered_change done
  next => exact answered_change done

theorem respond_change (env : Environment) (db : Database) (request : Request) :
    Change env db request (respond env db request).database := by
  cases direct : Http.Cors.isInquiry request with
  | true =>
    rw [respond_inquiry direct]
    exact .nothing
  | false =>
    rw [respond_eq direct]
    cases done : (handle env db request).outcome with
    | ok effect => exact handle_change direct done
    | error halt => cases halt <;> exact .nothing

end

/-! ### Runs -/

/-- A request, with all that surrounds it when it comes in. -/
structure Visit where
  environment : Environment
  request : Request

/-- A request has an action of a signed-in user carried out. -/
def Visit.Carries (visit : Visit) (db : Database) (user : User) (action : Action) : Prop :=
  Api.Carries visit.environment db visit.request user action

/-- The database after a visit. -/
def visited (db : Database) (visit : Visit) : Database :=
  (respond visit.environment db visit.request).database

/-- The database after visits one after the other. -/
def run (db : Database) (visits : List Visit) : Database := visits.foldl visited db

theorem run_nil (db : Database) : run db [] = db := rfl

theorem run_cons (db : Database) (visit : Visit) (later : List Visit) :
    run db (visit :: later) = run (visited db visit) later := rfl

theorem run_append (db : Database) (early later : List Visit) :
    run db (early ++ later) = run (run db early) later := List.foldl_append ..

theorem visited_of_carries {db written : Database} {visit : Visit} {user : User} {action : Action}
    {answer : Option Http.Response} (carries : visit.Carries db user action)
    (performed : action.perform visit.environment db user = .ok ⟨written, answer⟩) :
    visited db visit = written := by
  have answered := respond_of_carries carries
  rw [performed] at answered
  rw [visited, answered]
  rfl

/-- The property is kept where a user signs in and where an action writes. -/
structure IsKept (holds : Database → Prop) : Prop where
  users : ∀ db users, holds db → holds { db with users }
  writes : ∀ env db request user action written, holds db →
    Carries env db request user action → Write env db user action written → holds written

theorem upsert_users {db stored : Database} {now : Moment} {profile : SignInProfile} {user : User}
    (upserted : Users.upsert db now profile = .ok (stored, user)) :
    ∃ users, stored = { db with users } := (Users.upsert_isStored upserted).only_users

theorem IsKept.change {holds : Database → Prop} (kept : IsKept holds) {env : Environment}
    {db written : Database} {request : Request} (before : holds db)
    (change : Change env db request written) : holds written := by
  cases change with
  | nothing => exact before
  | signIn upserted =>
    obtain ⟨users, same⟩ := upsert_users upserted
    rw [same]
    exact kept.users db users before
  | action carries write => exact kept.writes _ _ _ _ _ _ before carries write

/-- What every change keeps every run keeps. -/
theorem run_kept {holds : Database → Prop}
    (each : ∀ env db request written, holds db → Change env db request written → holds written)
    {db : Database} (before : holds db) (visits : List Visit) : holds (run db visits) := by
  induction visits generalizing db with
  | nil => exact before
  | cons visit later ih =>
    exact ih (each _ db _ _ before (respond_change visit.environment db visit.request))

/-- What every sign-in and every write keeps every run keeps. -/
theorem IsKept.run {holds : Database → Prop} (kept : IsKept holds) {db : Database}
    (before : holds db) (visits : List Visit) : holds (run db visits) :=
  run_kept (fun _ _ _ _ => kept.change) before visits

/-- A database in which there is nothing but users. -/
structure HoldsOnlyUsers (db : Database) : Prop where
  customers : db.customers.rows = []
  orders : db.orders.rows = []
  segments : db.segments.rows = []
  campaigns : db.campaigns.rows = []
  logs : db.logs.rows = []

/-- A database that a run of requests leads to from one in which there is nothing but users. -/
def IsReachable (db : Database) : Prop :=
  ∃ start visits, HoldsOnlyUsers start ∧ run start visits = db

/-! ### A signed-in user -/

namespace Sample

/-- A token that names user number one. -/
def token : String :=
  "eyJhbGciOiJIUzI1NiIsInR5cCI6IkpXVCJ9.eyJzdWIiOiIxIn0." ++
    "LgWQUsh8wUkbJkB8PSotXEqLGkI4xwABAKsSSqPLFak"

def user : User := { (default : User) with id := 1, displayName := "Ada" }

/-- A database that holds the user and nothing else. -/
def start : Database := { users := Table.empty.insert user }

def environment : Environment where
  startup := {}
  settings := {}
  now := default
  provider := ⟨.unreachable, .unreachable⟩
  freshId := "1"
  freshState := "1"
  vendorIds place := "message " ++ toString place

/-- A visit of the user, with JSON as the body of the request. -/
def visit (method path body : String) : Visit where
  environment
  request := {
    method
    path
    headers := [("content-type", "application/json"), ("cookie", "session=" ++ token)]
    body }

theorem start_holdsOnlyUsers : HoldsOnlyUsers start := ⟨rfl, rfl, rfl, rfl, rfl⟩

theorem identify_token : identify environment token = .ok 1 :=
  toOption_eq_some_iff.mp (by decide +kernel)

theorem tokenOf?_visit (method path body : String) :
    tokenOf? environment (visit method path body).request = some token := by
  have kept : Http.Cookie.value? (some ("session=" ++ token)) "session" = some token := by
    decide +kernel
  unfold tokenOf?
  show (nonempty? (Http.Cookie.value? (some ("session=" ++ token)) "session")).or none = _
  rw [kept]
  rfl

theorem signedIn {db : Database} (users : db.users = start.users) (method path body : String) :
    authenticate environment db (visit method path body).request = .ok user := by
  unfold authenticate
  rw [tokenOf?_visit, users]
  show (identify environment token >>= _) = _
  rw [identify_token]
  rfl

theorem isJsonContent_visit (method path body : String) :
    isJsonContent (visit method path body).request := by
  show Option.any _ (some "application/json")
  decide +kernel

/-- JSON in the body of a visit is read. -/
theorem bodyFor_visit {task : Task} {method path body : String} {value : Value}
    (readsBody : task.readsBody) (filled : body.isEmpty = false)
    (read : jsonContent body = .ok value) :
    bodyFor task (visit method path body).request = .ok (.given value) := by
  have isJson := isJsonContent_visit method path body
  have notEmpty : (visit method path body).request.body.isEmpty = false := filled
  have content : jsonContent (visit method path body).request.body = .ok value := read
  unfold bodyFor contentOf
  rw [if_pos readsBody, notEmpty, isJson, content]
  rfl

/-- What the user asks for is carried out. -/
theorem carries {db : Database} {method path body : String} {action : Action}
    (users : db.users = start.users) (direct : method ≠ "OPTIONS")
    (read : ∃ task arguments content, routing method path = .found (.task task) arguments ∧
      bodyFor task (visit method path body).request = .ok content ∧
      task.read ⟨arguments, [], content⟩ = .accepted action) :
    (visit method path body).Carries db user action where
  direct := by simp [Http.Cors.isInquiry, visit, direct]
  up := rfl
  signedIn := signedIn users method path body
  read := read

end Sample

end Outreach.Api
