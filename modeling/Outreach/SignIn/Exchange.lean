import Outreach.Json.Reader
import Outreach.Settings
import Outreach.Text.Pattern
import Outreach.User.Basic

/-!
Talking to the identity provider: a code is exchanged for tokens, and an access token opens the
user's profile. What is sent is part of the result, and what comes back is given.
-/

namespace Outreach.SignIn

def tokenUrl : String := "https://oauth2.googleapis.com/token"

def profileUrl : String := "https://openidconnect.googleapis.com/v1/userinfo"

/-- What the provider does with a request. -/
inductive Reply where
  | answered (status : Int) (body : String)
  | unreachable
deriving Repr

/-- A request to the provider. -/
structure Call where
  method : String
  url : String
  authorization : Option String := none
  form : List (String × String) := []
deriving Repr

/-- Why an exchange came to nothing. -/
inductive Fault where
  | tokenExchange
  | noAccessToken
  | profileRequest
  | incompleteProfile
  /-- The answer is no JSON. -/
  | notJson
  /-- The answer has a whole number with more digits than are taken. -/
  | tooManyDigits
  /-- The answer is nested more deeply than is read. -/
  | tooDeep
  /-- The answer cannot hold an access token. -/
  | notSearchable
  /-- The access token cannot be sent. -/
  | unsendable
deriving DecidableEq, Repr

/-- The wording of the failures that a sign-in expects; the others are unexpected. -/
def Fault.message? : Fault → Option String
  | tokenExchange => some "Token exchange failed"
  | noAccessToken => some "Token response did not include an access token"
  | profileRequest => some "Profile request failed"
  | incompleteProfile => some "Profile response is missing required fields"
  | notJson | tooManyDigits | tooDeep | notSearchable | unsendable => none

def isSuccess (status : Int) : Bool := 200 ≤ status && status < 300

/-- The value that an answer holds. A byte order mark in front of it does not count. -/
def valueOf (failure : Fault) : Reply → Except Fault Value
  | .unreachable => .error failure
  | .answered status body =>
      if !isSuccess status then .error failure
      else
        let text := match body.toList with
          | '\ufeff' :: rest => rest
          | text => text
        match Json.read text with
        | .ok value => .ok value
        | .error .tooManyDigits => .error .tooManyDigits
        | .error .tooDeep => .error .tooDeep
        | .error (.invalid _) => .error .notJson

/-- A value in a form. -/
def formText : Value → String
  | .null => ""
  | .bool b => if b then "true" else "false"
  | value => value.display

/-- The fields of a form for a value; the items of a list are fields of one name. -/
def formFields (name : String) : Value → List (String × String)
  | .list items | .tuple items => items.map fun item => (name, formText item)
  | value => [(name, formText value)]

def tokenCall (settings : Settings) (code : Value) : Call where
  method := "POST"
  url := tokenUrl
  form := formFields "code" code ++ [
    ("client_id", settings.clientId.getD ""), ("client_secret", settings.clientSecret.getD ""),
    ("redirect_uri", settings.redirectUrl), ("grant_type", "authorization_code")]

def accessTokenKey : String := "access_token"

/-- Whether the name of the access token stands somewhere in an answer, if it can. -/
def namesToken? : Value → Option Bool
  | .dict entries => some (Value.lookup entries accessTokenKey).isSome
  | .list items => some (items.any fun item => item.asText? == some accessTokenKey)
  | .text text => some (Text.occursIn accessTokenKey.toList text.toList)
  | _ => none

/-- The tokens for a code. -/
def exchangeCode (reply : Reply) : Except Fault Value := do
  let tokens ← valueOf .tokenExchange reply
  match namesToken? tokens with
  | some true => .ok tokens
  | some false => .error .noAccessToken
  | none => .error .notSearchable

/-- The tokens for a code of any kind, and the requests made for them. -/
def exchange (settings : Settings) (code : Value) (reply : Reply) :
    List Call × Except Fault Value :=
  let call := tokenCall settings code
  if call.form.all fun (_, text) => Text.isWhole text then ([call], exchangeCode reply)
  else ([], .error .unsendable)

/-- The request for the profile that an access token opens, if the token can be sent. -/
def profileCall? (accessToken : Value) : Option Call :=
  let text := accessToken.display
  if text.toList.all fun c => c.toNat < 128 then
    some { method := "GET", url := profileUrl, authorization := some ("Bearer " ++ text) }
  else none

/-- The profile in an answer. -/
def profileOf (reply : Reply) : Except Fault SignInProfile := do
  match SignInProfile.read (← valueOf .profileRequest reply) with
  | .accepted profile => .ok profile
  | .rejected _ => .error .incompleteProfile

/-- The profile that an access token opens, and the requests made for it. -/
def fetchProfile (accessToken : Value) (reply : Reply) : List Call × Except Fault SignInProfile :=
  match profileCall? accessToken with
  | some call => ([call], profileOf reply)
  | none => ([], .error .unsendable)

end Outreach.SignIn
