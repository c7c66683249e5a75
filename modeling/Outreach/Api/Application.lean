import Outreach.Api.Content
import Outreach.Api.Environment
import Outreach.Api.Perform
import Outreach.Http.Cors
import Outreach.Http.Target
import Outreach.Tracing.Log

/-!
The application: a request and a database yield a response and a database. A request is routed, its
content is read, its sender is identified, its data are checked, and then it is carried out; what
refuses it at one of these stages keeps the later ones from happening. A refusal and an unforeseen
failure are answered by problem documents, and leave the database as it was unless the failure is
only that what was stored cannot be shown.
-/

namespace Outreach.Api

open Http (Request Response Headers)

/-! ### Sign-in and sign-out -/

def redirection (status : Nat) (address : String) (cookies : List Http.Cookie.Setting) :
    Response where
  status
  headers := ("location", Http.Target.location address) :: cookies.map Http.Cookie.Setting.header

/-- The cookie that keeps the state of a sign-in. -/
def stateCookie : String := "oauth_state"

/-- Sends the user to the consent screen. -/
def beginSignIn (env : Environment) : Except Halt Response :=
  if (nonempty? env.settings.clientId).isNone then refuse .signInNotConfigured
  else
    let address := SignIn.authorizationUrl env.settings (.text env.freshState)
    .ok (redirection 302 address [{
      name := stateCookie
      value := env.freshState
      lifetime := SignIn.stateLifetime
      httpOnly := true
      secure := env.settings.isProduction }])

/-- Where a sign-in ends, unless the session cookie has a name that no cookie can have. -/
def endSignIn? (env : Environment) (ending : SignIn.Ending) : Option Response :=
  let withoutState := Http.Cookie.removal stateCookie env.now
  match ending with
  | .rejected rejection =>
      let query := SignIn.query [("error", .text rejection.word)]
      some (redirection 302 (env.settings.clientUrl ++ "/login?" ++ query) [withoutState])
  | .completed session =>
      if !Http.Cookie.isName env.settings.sessionCookie then none
      else some <| redirection 302 (env.settings.clientUrl ++ "/dashboard") [withoutState, {
        name := env.settings.sessionCookie
        value := session
        lifetime := env.settings.tokenMinutes * 60
        httpOnly := true
        secure := env.settings.isProduction }]

def signOut (env : Environment) : Except Halt Response :=
  if !Http.Cookie.isName env.settings.sessionCookie then mishap .unforeseen
  else .ok (redirection 302 (env.settings.clientUrl ++ "/login")
    [Http.Cookie.removal env.settings.sessionCookie env.now])

/-- Completes the sign-in of a user who comes back from the consent screen. -/
def completeSignIn (env : Environment) (db : Database) (request : Request) :
    List SignIn.Call × Except Halt (Effect Response) :=
  let kept := Http.Cookie.value? (request.header? "cookie") stateCookie
  let back : SignIn.Return := {
    error := request.parameter? "error"
    state := request.parameter? "state"
    code := request.parameter? "code" }
  let (calls, outcome) := SignIn.complete env.settings env.provider db env.now kept back
  (calls, outcome.map fun effect => ⟨effect.database, effect.answer.bind (endSignIn? env)⟩)

/-! ### About the application -/

def applicationName : String := "Xeno CRM API"

def version : String := "1.0.0"

def rootValue (settings : Settings) : Value :=
  .record ([
    ("name", .text applicationName), ("version", .text version), ("health", .text "/health")] ++
    if settings.docsEnabled then [("docs", .text "/docs")] else [])

def health (env : Environment) : Response :=
  if env.databaseIsUp then
    success 200 (.record [
      ("status", .text "ok"), ("version", .text version),
      ("environment", .text env.settings.environment)])
  else success 500 (.record [("status", .text "error")])

/-! ### Handling -/

/-- What came of handling a request: the calls to the identity provider, and the outcome. -/
structure Handled where
  calls : List SignIn.Call := []
  outcome : Except Halt (Effect Response)

/-- Answers without touching the database. -/
def answered (db : Database) (response : Except Halt Response) : Handled where
  outcome := response.map fun response => ⟨db, some response⟩

/-- Carries out what a signed-in user asks for. -/
def carryOut (env : Environment) (db : Database) (request : Request) (task : Task)
    (arguments : Arguments) : Except Halt (Effect Response) := do
  let body ← if task.readsBody then (contentOf request).mapError .refused else pure .absent
  ensure env.databaseIsUp
  let user ← authenticate env db request
  match task.read ⟨arguments, request.parameters, body⟩ with
  | .accepted action => action.perform env db user
  | .rejected issues => refuse (.invalidRequest issues)

/-- Carries out an operation. -/
def operate (env : Environment) (db : Database) (request : Request) (operation : Operation)
    (arguments : Arguments) : Handled :=
  match operation with
  | .root => answered db (.ok (success 200 (rootValue env.settings)))
  | .health => answered db (.ok (health env))
  | .consent => answered db (beginSignIn env)
  | .signOut => answered db (signOut env)
  | .signIn =>
      if env.databaseIsUp then
        let (calls, outcome) := completeSignIn env db request
        ⟨calls, outcome⟩
      else ⟨[], mishap .unforeseen⟩
  | .task task => ⟨[], carryOut env db request task arguments⟩

/-- The address of a path at the host that a request was sent to. -/
def addressOf (request : Request) (path : String) : String :=
  "http://" ++ (request.header? "host").getD "" ++ path ++
    if request.query.isEmpty then "" else "?" ++ request.query

/-- Routes a request and carries out what it asks for. -/
def handle (env : Environment) (db : Database) (request : Request) : Handled :=
  match routing request.method request.path with
  | .found operation arguments => operate env db request operation arguments
  | .wrongMethod allowed => answered db (refuse (.wrongMethod allowed))
  | .elsewhere path => answered db (.ok (redirection 307 (addressOf request path) []))
  | .unknown => answered db (refuse .unknownPath)

/-! ### Responses -/

/-- The identifiers of a request: those that it brings, or fresh ones. -/
def traceOf (env : Environment) (request : Request) : Trace where
  correlation := (request.filledHeader? "x-correlation-id").getD env.freshCorrelation
  request := (request.filledHeader? "x-request-id").getD env.freshId

/-- The identifier by which a refusal can be traced: the one of its request, unless that is the word
for an unknown one. -/
def traceIdOf (env : Environment) (request : Request) : String :=
  let id := (traceOf env request).request
  if id = Trace.unknown then env.freshId else id

/-- The identifiers in a response. -/
def traceHeaders (trace : Trace) : Headers := [
  ("x-correlation-id", trace.correlation), ("x-request-id", trace.request)]

/-- What keeps browsers from guessing kinds of content and from showing responses in frames. -/
def securityHeaders : Headers := [
  ("x-content-type-options", "nosniff"), ("x-frame-options", "DENY"),
  ("x-xss-protection", "1; mode=block")]

def problemResponse (problem : Problem) : Response where
  status := problem.status.toNat
  headers := [("content-type", Response.problemKind)]
  content := .json problem.toCompactValue

/-- What a refusal tells in headers of its own. -/
def refusalHeaders : Refusal → Headers
  | .wrongMethod allowed => [("allow", allowed)]
  | _ => []

def refusalResponse (env : Environment) (request : Request) (refusal : Refusal) : Response :=
  let occurrence := Http.Target.shownPath request.path
  (problemResponse (refusal.problem env.now (traceIdOf env request) occurrence)).withHeaders
    (refusalHeaders refusal)

/-- What is told of a failure: what went wrong only to those who look for errors. -/
def failureDetail (settings : Settings) (mishap : Mishap) : String :=
  let told := if settings.debug then mishap.message? else none
  told.getD "An unexpected error occurred"

/-- The answer to an unforeseen failure. It comes from outside of all that adds headers, and
carries a fresh identifier. -/
def failureResponse (env : Environment) (request : Request) (mishap : Mishap) : Response :=
  problemResponse (Problem.make env.now env.freshTrace .internalError 500
    (failureDetail env.settings mishap) none (some (Http.Target.shownPath request.path)) none)

/-- Adds what every handled response carries. -/
def dressed (env : Environment) (request : Request) (response : Response) : Response :=
  response.withHeaders (securityHeaders ++
    Http.Cors.permission env.startup.clientUrl request ++ traceHeaders (traceOf env request))

/-- A response as it is sent: none has a content where only headers were asked for. -/
def sent (request : Request) (response : Response) : Response :=
  if request.method = "HEAD" then { response with content := .nothing } else response

/-- What a request leads to. -/
structure Exchange where
  response : Response
  database : Database
  calls : List SignIn.Call := []

/-- A response as it leaves, if it can leave. -/
def handedOut (env : Environment) (request : Request) (response : Response) : Response :=
  if response.isSendable then dressed env request response
  else failureResponse env request .unforeseen

/-- The response to what was carried out. -/
def responseOf (env : Environment) (request : Request) (effect : Effect Response) : Response :=
  match effect.answer with
  | some response => handedOut env request response
  | none => failureResponse env request .unforeseen

/-- Responds to a request. -/
def respond (env : Environment) (db : Database) (request : Request) : Exchange :=
  if Http.Cors.isInquiry request then
    { response := sent request ((Http.Cors.answer env.startup.clientUrl request).withHeaders
        (traceHeaders (traceOf env request)))
      database := db }
  else
    let handled := handle env db request
    match handled.outcome with
    | .ok effect =>
        ⟨sent request (responseOf env request effect), effect.database, handled.calls⟩
    | .error (.refused refusal) =>
        ⟨sent request (handedOut env request (refusalResponse env request refusal)), db,
          handled.calls⟩
    | .error (.failed mishap) =>
        ⟨sent request (failureResponse env request mishap), db, handled.calls⟩

end Outreach.Api
