import Outreach.Calendar.Moment
import Outreach.Http.Cookie
import Outreach.Http.Message
import Outreach.Settings
import Outreach.SignIn.Callback

/-!
What surrounds the handling of a request: configuration, the time, the identity provider, and the
random names that are drawn in its course. Access: who sends the request. The session cookie counts
first, and a token in the authorization header only where there is no cookie. Nothing is told of why
a token is not taken.
-/

namespace Outreach.Api

structure Environment where
  /-- The configuration that the application was started with. -/
  startup : Settings
  /-- The present configuration. -/
  settings : Settings
  now : Moment
  provider : SignIn.Provider
  databaseIsUp : Bool := true
  /-- The identifier of a request that brings none. -/
  freshId : String
  /-- The correlation of a request that brings none. -/
  freshCorrelation : String := freshId
  /-- The identifier of a failure, which is answered after its request is left. -/
  freshTrace : String := freshId
  /-- The state for a new sign-in. -/
  freshState : String
  /-- The names that vendors give to the messages of a campaign. -/
  vendorIds : Nat → String

/-! ### Access -/

/-- The token in an authorization header. -/
def bearerToken? (header : String) : Option String :=
  let (scheme, token) := Form.splitOnce ' ' header.toList
  if scheme.map Char.toLower = "bearer".toList ∧ token ≠ [] then some (String.ofList token)
  else none

/-- The token that a request is sent with. -/
def tokenOf? (env : Environment) (request : Http.Request) : Option String :=
  let cookie := Http.Cookie.value? (request.header? "cookie") env.startup.sessionCookie
  (nonempty? cookie).or ((request.header? "authorization").bind bearerToken?)

/-- The number of the user whom a token names. -/
def identify (env : Environment) (token : String) : Except Halt Int :=
  match Token.user env.settings env.now token with
  | .ok user => .ok user
  | .error .invalid => refuse .invalidCredentials
  | .error .unreadableTime | .error .tooDeep => mishap .unforeseen

/-- The user who sends a request. -/
def authenticate (env : Environment) (db : Database) (request : Http.Request) :
    Except Halt User :=
  match tokenOf? env request with
  | none => refuse .anonymous
  | some token => do
      let id ← identify env token
      ensureFits id
      match db.users.find? id with
      | some user => return user
      | none => refuse .invalidCredentials

end Outreach.Api
