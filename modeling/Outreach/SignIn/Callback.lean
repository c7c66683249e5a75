import Outreach.Form.Encoding
import Outreach.Session.Token
import Outreach.Settings
import Outreach.SignIn.Exchange
import Outreach.User.Registry

/-!
Asking for consent: the address to which a user is sent to sign in, and the check of the state that
comes back. The state ties the answer to the one who asked.

Completing a sign-in: the user comes back from the consent screen with a code and with the state
that was kept for them. Only if nothing is amiss are the code and then the access token spent, the
user stored and a session begun.
-/

namespace Outreach.SignIn

def consentUrl : String := "https://accounts.google.com/o/oauth2/v2/auth"

/-- What is asked for. -/
def scopes : String := "openid profile email"

/-- The parameters of the address. -/
def consentParameters (settings : Settings) (state : Value) : List (String × Value) := [
  ("client_id", .ofOption .text settings.clientId), ("redirect_uri", .text settings.redirectUrl),
  ("response_type", .text "code"), ("scope", .text scopes), ("state", state),
  ("prompt", .text "select_account")]

/-- A value in a query: bytes as they are, anything else by its plain text. -/
def encodeValue : Value → List Char
  | .bytes bytes => bytes.flatMap Form.encodeByte
  | value => Form.encodeText value.plain

/-- The query that carries some parameters. -/
def query (parameters : List (String × Value)) : String :=
  String.ofList (['&'].intercalate (parameters.map fun (name, value) =>
    Form.encodeText name.toList ++ '=' :: encodeValue value))

/-- The address of the consent screen. -/
def authorizationUrl (settings : Settings) (state : Value) : String :=
  consentUrl ++ "?" ++ query (consentParameters settings state)

/-- Whether a state can stand in the address. -/
def isEncodable (state : Value) : Bool := Text.isWhole state.display

/-- The seconds for which a state is kept. -/
def stateLifetime : Nat := 900

def isAscii (text : String) : Bool := text.toList.all fun c => c.toNat < 128

/-- Whether the state that came back is the one that was kept. What counts as nothing is no state;
texts with characters beyond ASCII are not compared, nor is anything but two texts or two byte
strings. -/
def sameState? (kept received : Value) : Option Bool :=
  if kept.isEmpty || received.isEmpty then some false
  else
    match kept, received with
    | .bytes a, .bytes b => some (a = b)
    | _, _ =>
        match kept.asText?, received.asText? with
        | some a, some b => if isAscii a && isAscii b then some (a = b) else none
        | _, _ => none

/-- Whether the state that came back, if one did, is the one that was kept, if one was. -/
def verifyState? (kept received : Option String) : Option Bool :=
  sameState? (.ofOption .text kept) (.ofOption .text received)

/-! ### The return -/

/-- What the user comes back with. -/
structure Return where
  error : Option String
  state : Option String
  code : Option String
deriving Repr

/-- What the identity provider does. -/
structure Provider where
  token : Reply
  profile : Reply
deriving Repr

/-- Why a sign-in ends at the login page. -/
inductive Rejection where
  | accessDenied | invalidState | missingCode | exchangeFailed
deriving DecidableEq, Repr

def Rejection.word : Rejection → String
  | accessDenied => "access_denied"
  | invalidState => "invalid_state"
  | missingCode => "missing_code"
  | exchangeFailed => "oauth_failed"

/-- How a sign-in ends. -/
inductive Ending where
  | rejected (rejection : Rejection)
  /-- The token of the session that begins. -/
  | completed (session : String)
deriving DecidableEq, Repr

/-- What is spent with the provider: the calls made, and the profile or why there is none. -/
structure Inquiry where
  calls : List Call
  outcome : Except Fault SignInProfile
deriving Repr

/-- Asks the provider for the profile that a code opens. -/
def inquire (settings : Settings) (provider : Provider) (code : String) : Inquiry :=
  let call := tokenCall settings (.text code)
  match exchangeCode provider.token with
  | .error fault => ⟨[call], .error fault⟩
  | .ok (.dict entries) =>
      match Value.lookup entries accessTokenKey with
      | none => ⟨[call], .error .noAccessToken⟩
      | some accessToken =>
          let (calls, outcome) := fetchProfile accessToken provider.profile
          ⟨call :: calls, outcome⟩
  | .ok _ => ⟨[call], .error .notSearchable⟩

/-- Why a sign-in ends before the provider is asked, if it does, or the code to ask with. A state
that cannot be compared fails. -/
def precheck (kept : Option String) (back : Return) :
    Except Halt (Except Rejection String) :=
  if (nonempty? back.error).isSome then .ok (.error .accessDenied)
  else match verifyState? kept back.state with
    | none => mishap .foreignState
    | some false => .ok (.error .invalidState)
    | some true =>
        match nonempty? back.code with
        | none => .ok (.error .missingCode)
        | some code => .ok (.ok code)

/-- Stores the user of a profile and begins a session. Where no session token can be made the user
is stored nevertheless. -/
def begin (settings : Settings) (db : Database) (now : Moment) (profile : SignInProfile) :
    Except Halt (Effect Ending) := do
  let (db, user) ← Users.upsert db now profile
  match Token.issueSession settings now user.id user.email with
  | .ok session => return ⟨db, some (.completed session)⟩
  | .error _ => return ⟨db, none⟩

/-- What a return leads to, with the calls made to the provider. -/
def complete (settings : Settings) (provider : Provider) (db : Database) (now : Moment)
    (kept : Option String) (back : Return) : List Call × Except Halt (Effect Ending) :=
  match precheck kept back with
  | .error halt => ([], .error halt)
  | .ok (.error rejection) => ([], .ok ⟨db, some (.rejected rejection)⟩)
  | .ok (.ok code) =>
      let inquiry := inquire settings provider code
      match inquiry.outcome with
      | .ok profile => (inquiry.calls, begin settings db now profile)
      | .error fault =>
          match fault.message? with
          | some _ => (inquiry.calls, .ok ⟨db, some (.rejected .exchangeFailed)⟩)
          | none => (inquiry.calls, mishap .unforeseen)

end Outreach.SignIn
