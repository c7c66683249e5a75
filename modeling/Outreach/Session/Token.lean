import Outreach.Digest.Keyed
import Outreach.Json.Reader
import Outreach.Json.Writer
import Outreach.Settings
import Outreach.Text.Base64
import Outreach.Text.Digit
import Outreach.Text.Pattern
import Outreach.Text.Utf8
import Outreach.User.Basic

/-!
Session tokens: claims about a user, signed with the secret. A token has three parts, a header, the
claims and the signature, and is good until the second in which it expires has passed.
-/

namespace Outreach.Token

abbrev Claims := List (Value × Value)

/-- The parts of a token are joined by this sign. -/
def separator : Char := '.'

def header (algorithm : String) : Value :=
  .record [("alg", .text algorithm), ("typ", .text "JWT")]

/-- How tokens are signed. -/
inductive Algorithm where
  | hs256 | hs384 | hs512
deriving DecidableEq, Repr

namespace Algorithm

/-- The name of a way to sign. -/
def name : Algorithm → String
  | hs256 => "HS256"
  | hs384 => "HS384"
  | hs512 => "HS512"

def ofName? (name : String) : Option Algorithm := [hs256, hs384, hs512].find? fun a => a.name = name

def method : Algorithm → Digest.Method
  | hs256 => .sha256
  | hs384 => .sha384
  | hs512 => .sha512

end Algorithm

/-- What is in keys that are no secrets. -/
def publicKeyMarks : List String := [
  "-----BEGIN PUBLIC KEY-----", "-----BEGIN RSA PUBLIC KEY-----", "-----BEGIN CERTIFICATE-----",
  "ssh-rsa"]

def isPublicKey (key : String) : Bool :=
  publicKeyMarks.any fun mark => Text.occursIn mark.toList key.toList

/-- Why no token was made. -/
inductive IssueFault where
  /-- There is no such way to sign, or the secret is none. -/
  | unsupported
  /-- A claim is of a kind that JSON has not, or a whole number in it has too many digits. -/
  | unwritable
  /-- Arrays and objects stand in one another more deeply than is written. -/
  | tooDeep
  /-- The token would expire after the calendar ends. -/
  | beyondCalendar
deriving DecidableEq, Repr

def isKey (name : String) (key : Value) : Bool := key.asText? == some name

/-- The claims with a value put in the place of the old one, or at the end. -/
def withClaim (name : String) (value : Value) (claims : Claims) : Claims :=
  if claims.any fun entry => isKey name entry.1 then
    claims.map fun entry => if isKey name entry.1 then (entry.1, value) else entry
  else claims ++ [(.text name, value)]

/-- The claims that are times may be given as moments and are kept in whole seconds. -/
def inSeconds (claims : Claims) : Claims :=
  claims.map fun (key, value) =>
    match value with
    | .moment m =>
        if isKey "iat" key || isKey "nbf" key || isKey "exp" key then (key, .int m.epochSeconds)
        else (key, value)
    | _ => (key, value)

/-- How long tokens are good that are issued for no lifetime of their own, in seconds. -/
def defaultLifetime (settings : Settings) : Int := settings.tokenMinutes * 60

/-- How long a token is good, in microseconds. A lifetime of nothing is none of its own. -/
def lifetimeOf (settings : Settings) (lifetime : Option Int) : Int :=
  (lifetime.filter (· ≠ 0)).getD (defaultLifetime settings * microsecondsPerSecond)

/-- The second in which a token expires that is issued now. -/
def expiry? (settings : Settings) (now : Moment) (lifetime : Option Int) : Option Int :=
  (Moment.ofEpoch? (now.sinceEpoch + lifetimeOf settings lifetime)).map Moment.epochSeconds

/-- The signature of a text, if it can be signed. -/
def signature? (settings : Settings) (content : List Char) : Option (List UInt8) :=
  match Algorithm.ofName? settings.algorithm with
  | none => none
  | some algorithm =>
      if isPublicKey settings.secretKey then none
      else some (Digest.keyed algorithm.method (Text.Utf8.encode settings.secretKey.toList)
        (Text.Utf8.encode content))

/-- The part of a token that holds a value. -/
def part (value : Value) : Except IssueFault (List Char) :=
  if Json.maxDepth < value.depth then .error .tooDeep
  else
    match Json.write? value with
    | some text => .ok (Text.Base64.encode (Text.Utf8.encode text))
    | none => .error .unwritable

/-- A token for claims as they are. -/
def encode (settings : Settings) (claims : Claims) : Except IssueFault (List Char) := do
  if (Algorithm.ofName? settings.algorithm).isNone then .error .unsupported
  let head ← part (header settings.algorithm)
  let body ← part (.dict claims)
  let content := head ++ separator :: body
  match signature? settings content with
  | some signature => .ok (content ++ separator :: Text.Base64.encode signature)
  | none => .error .unsupported

/-- A token for claims, good for a lifetime in microseconds. -/
def issue (settings : Settings) (now : Moment) (lifetime : Option Int) (claims : Claims) :
    Except IssueFault String :=
  match expiry? settings now lifetime with
  | none => .error .beyondCalendar
  | some expiry =>
      (encode settings (inSeconds (withClaim "exp" (.int expiry) claims))).map String.ofList

/-- The claims of a session. -/
def sessionClaims (user : Int) (email : String) : Claims := [
  (.text "sub", .text (String.ofList (Text.ofInt user))), (.text "email", .text email)]

/-- The token of a user's session. -/
def issueSession (settings : Settings) (now : Moment) (user : Int) (email : String) :
    Except IssueFault String :=
  issue settings now none (sessionClaims user email)

/-! ### Verification -/

/-- Why a token was not taken. -/
inductive Refusal where
  /-- It proves nothing. -/
  | invalid
  /-- A claim that should be a time is of a kind that stands for no number at all. -/
  | unreadableTime
  /-- A part of it holds JSON that nests too deep to be read. -/
  | tooDeep
deriving DecidableEq, Repr

/-- A token proves nothing where something is missing. -/
def orInvalid {α : Type} : Option α → Except Refusal α
  | some value => .ok value
  | none => .error .invalid

/-- A token proves nothing unless something holds. -/
def ensureValid (holds : Bool) : Except Refusal Unit := if holds then .ok () else .error .invalid

/-- The text before the last place where a sign stands, and the text after it. -/
def splitLast? (sign : Char) (text : List Char) : Option (List Char × List Char) :=
  if text.contains sign then
    let after := (text.reverse.takeWhile (· ≠ sign)).reverse
    some (text.take (text.length - after.length - 1), after)
  else none

def decodePart? (part : List Char) : Option (List UInt8) :=
  Text.Base64.decode? (Text.Utf8.encode part)

/-- The mapping that bytes hold as JSON. -/
def mapping (bytes : List UInt8) : Except Refusal Claims := do
  let text ← orInvalid (String.fromUTF8? bytes.toByteArray)
  match Json.read text.toList with
  | .ok (.dict entries) => .ok entries
  | .error .tooDeep => .error .tooDeep
  | _ => .error .invalid

/-- The claims of a token with a good signature. -/
def signedClaims (settings : Settings) (token : String) : Except Refusal Claims := do
  let (content, signature) ← orInvalid (splitLast? separator token.toList)
  ensureValid (content.contains separator)
  let head := content.takeWhile (· ≠ separator)
  let header ← mapping (← orInvalid (decodePart? head))
  let body ← orInvalid (decodePart? (content.drop (head.length + 1)))
  let signature ← orInvalid (decodePart? signature)
  let algorithm ← orInvalid ((Value.lookup header "alg").bind Value.asText?)
  ensureValid (algorithm = settings.algorithm && !algorithm.isEmpty)
  ensureValid (signature? settings content = some signature)
  mapping body

/-- The whole number of a claim that is a time; fractions do not count. -/
def seconds (value : Value) : Except Refusal Int :=
  match value with
  | .int n => .ok n
  | .bool b => .ok (if b then 1 else 0)
  | .float .nan => .error .invalid
  | .float x =>
      match x.truncate? with
      | some n => .ok n
      | none => .error .unreadableTime
  | value =>
      match value.asText? with
      | none => .error .unreadableTime
      | some text =>
          match Text.integer? text.toList with
          | some n => .ok n
          | none => .error .invalid

/-- Checks a time, if the claims have it. -/
def checkTime (claims : Claims) (name : String) (isGood : Int → Bool) : Except Refusal Unit :=
  match Value.lookup claims name with
  | none => .ok ()
  | some value =>
      match seconds value with
      | .error refusal => .error refusal
      | .ok n => if isGood n then .ok () else .error .invalid

/-- Whether a claim, if there is one, is a text. -/
def isTextIfGiven (claims : Claims) (name : String) : Bool :=
  match Value.lookup claims name with
  | some (.text _) | none => true
  | _ => false

/-- Refuses claims outside their time, claims made for others, and claims of a wrong kind. -/
def checkClaims (now : Moment) (claims : Claims) : Except Refusal Unit := do
  checkTime claims "iat" fun _ => true
  checkTime claims "nbf" fun n => n ≤ now.epochSeconds
  checkTime claims "exp" fun n => now.epochSeconds ≤ n
  if (Value.lookup claims "aud").isSome || (Value.lookup claims "at_hash").isSome then
    .error .invalid
  if !isTextIfGiven claims "sub" || !isTextIfGiven claims "jti" then .error .invalid

/-- The claims of a good token. -/
def verify (settings : Settings) (now : Moment) (token : String) : Except Refusal Claims := do
  let claims ← signedClaims settings token
  checkClaims now claims
  return claims

/-- The number of the user that claims name; the e-mail address has to be a text if there is one. -/
def user? (claims : Claims) : Option Int := do
  let subject ← (Value.lookup claims "sub").bind Value.asText?
  let user ← Text.integer? subject.toList
  let email := (Value.lookup claims "email").getD .null
  if (Schema.nullable Schema.text email).isAccepted then some user else none

/-- The user that a good token names. -/
def user (settings : Settings) (now : Moment) (token : String) : Except Refusal Int := do
  match user? (← verify settings now token) with
  | some user => .ok user
  | none => .error .invalid

end Outreach.Token
