import Outreach.Schema.Dump
import Outreach.Schema.Number

/-!
Configuration. Outside development the secret has to be a strong one and sign-in configured, and
debugging is switched off.
-/

namespace Outreach

structure Settings where
  databaseUrl : String := "postgresql+asyncpg://localhost:5432/xeno_crm"
  secretKey : String := "development-secret-key-change-in-production"
  algorithm : String := "HS256"
  tokenMinutes : Int := 1440
  sessionCookie : String := "session"
  clientId : Option String := none
  clientSecret : Option String := none
  clientUrl : String := "http://localhost:3000"
  serverUrl : String := "http://localhost:5000"
  batchSize : Int := 500
  environment : String := "development"
  debug : Bool := true
  docsEnabled : Bool := true
deriving DecidableEq, Repr, Inhabited

namespace Settings

def isProduction (s : Settings) : Bool :=
  s.environment = "production" || s.environment = "staging"

/-- Whether statements are shown; in production they may carry customers' data. -/
def showsStatements (s : Settings) : Bool := s.debug && !s.isProduction

/-- Where the identity provider sends the user back to. -/
def redirectUrl (s : Settings) : String := s.serverUrl ++ "/auth/google/callback"

/-- Secrets that everybody knows. -/
def weakSecrets : List String := [
  "development-secret-key-change-in-production", "your-secret-key", "changeme", "secret",
  "password", "test"]

/-- What makes a configuration unfit for production. -/
inductive Weakness where
  | knownSecret | shortSecret | noClientId
deriving DecidableEq, Repr

def Weakness.message : Weakness → String
  | knownSecret => "SECRET_KEY must be changed in production"
  | shortSecret => "SECRET_KEY must be at least 32 characters in production"
  | noClientId => "GOOGLE_CLIENT_ID is required in production"

def weakness? (s : Settings) : Option Weakness :=
  if !s.isProduction then none
  else if weakSecrets.contains s.secretKey then some .knownSecret
  else if s.secretKey.length < 32 then some .shortSecret
  else if (s.clientId.getD "").isEmpty then some .noClientId
  else none

/-- The settings as they are used, unless they are unfit. -/
def secured (s : Settings) : Checked Settings :=
  match s.weakness? with
  | some weakness => .refuse (.refused weakness.message)
  | none => .accepted (if s.isProduction then { s with debug := false } else s)

/-- The scheme of addresses that are given the driver that works asynchronously. -/
def plainScheme : String := "postgresql://"

/-- A database address with the driver named. -/
def withDriver (url : String) : String :=
  if plainScheme.toList.isPrefixOf url.toList then
    "postgresql+asyncpg://" ++ String.ofList (url.toList.drop plainScheme.length)
  else url

/-- The setting with a default that stands for one not given. -/
def setting {α : Type} (given : List (Value × Value)) (name : String) (default : α)
    (read : Reader α) : Checked α :=
  (Schema.permitted given name read).map (Entry.getD default)

/-- The names of the settings. -/
def names : List String := [
  "DATABASE_URL", "SECRET_KEY", "ALGORITHM", "ACCESS_TOKEN_EXPIRE_MINUTES", "SESSION_COOKIE_NAME",
  "GOOGLE_CLIENT_ID", "GOOGLE_CLIENT_SECRET", "CLIENT_URL", "SERVER_URL", "AUDIENCE_BATCH_SIZE",
  "ENVIRONMENT", "DEBUG", "DOCS_ENABLED"]

/-- The issues of keys that are no settings. -/
def unknownKeys (given : List (Value × Value)) : Checked Unit :=
  match given.filter fun entry => !((entry.1.asText?).any names.contains) with
  | [] => .accepted ()
  | unknown => .rejected (unknown.map fun entry => ⟨[entry.1.display], .unknownKey⟩)

/-- Reads settings. -/
def readFields (given : List (Value × Value)) : Checked Settings :=
  let blank : Settings := {}
  (fun settings _ => settings) <$>
    (Settings.mk
      <$> setting given "DATABASE_URL" blank.databaseUrl (fun v => (Schema.text v).map withDriver)
      <*> setting given "SECRET_KEY" blank.secretKey Schema.text
      <*> setting given "ALGORITHM" blank.algorithm Schema.text
      <*> setting given "ACCESS_TOKEN_EXPIRE_MINUTES" blank.tokenMinutes Schema.integer
      <*> setting given "SESSION_COOKIE_NAME" blank.sessionCookie Schema.text
      <*> setting given "GOOGLE_CLIENT_ID" blank.clientId (Schema.nullable Schema.text)
      <*> setting given "GOOGLE_CLIENT_SECRET" blank.clientSecret (Schema.nullable Schema.text)
      <*> setting given "CLIENT_URL" blank.clientUrl Schema.text
      <*> setting given "SERVER_URL" blank.serverUrl Schema.text
      <*> setting given "AUDIENCE_BATCH_SIZE" blank.batchSize Schema.integer
      <*> setting given "ENVIRONMENT" blank.environment Schema.text
      <*> setting given "DEBUG" blank.debug Schema.boolean
      <*> setting given "DOCS_ENABLED" blank.docsEnabled Schema.boolean)
    <*> unknownKeys given

/-- Why settings cannot be looked at. -/
inductive Obstacle where
  /-- A setting has a name that is no text. -/
  | namelessSetting
  /-- The database address is of a kind that has no beginning. -/
  | noBeginning
  /-- The beginning of the database address is no text. -/
  | bytesAddress
deriving DecidableEq, Repr

/-- What keeps settings from being looked at, if anything does. A database address may be a text, or
nothing at all. -/
def obstacle? (given : List (Value × Value)) : Option Obstacle :=
  if given.any fun entry => entry.1.asText?.isNone then some .namelessSetting
  else
    match Value.lookup given "DATABASE_URL" with
    | none => none
    | some value =>
        if value.isEmpty || value.asText?.isSome then none
        else match value with
          | .bytes _ => some .bytesAddress
          | _ => some .noBeginning

/-- Reads settings and secures them. -/
def load (given : List (Value × Value)) : Except Obstacle (Checked Settings) :=
  match obstacle? given with
  | some obstacle => .error obstacle
  | none => .ok ((readFields given).andThen secured)

def toValue (s : Settings) : Value :=
  .record [
    ("DATABASE_URL", .text s.databaseUrl), ("SECRET_KEY", .text s.secretKey),
    ("ALGORITHM", .text s.algorithm), ("ACCESS_TOKEN_EXPIRE_MINUTES", .int s.tokenMinutes),
    ("SESSION_COOKIE_NAME", .text s.sessionCookie),
    ("GOOGLE_CLIENT_ID", .ofOption .text s.clientId),
    ("GOOGLE_CLIENT_SECRET", .ofOption .text s.clientSecret),
    ("CLIENT_URL", .text s.clientUrl), ("SERVER_URL", .text s.serverUrl),
    ("AUDIENCE_BATCH_SIZE", .int s.batchSize), ("ENVIRONMENT", .text s.environment),
    ("DEBUG", .bool s.debug), ("DOCS_ENABLED", .bool s.docsEnabled)]

/-- The settings with some of them replaced as they are, unchecked; null clears those that may be
missing, and a value of the wrong kind changes nothing. -/
def override (s : Settings) (given : List (Value × Value)) : Settings :=
  let textOr (name : String) (old : String) : String :=
    ((Value.lookup given name).bind Value.asText?).getD old
  let optionalOr (name : String) (old : Option String) : Option String :=
    match Value.lookup given name with
    | some .null => none
    | some value => value.asText?.or old
    | none => old
  let intOr (name : String) (old : Int) : Int :=
    match Value.lookup given name with
    | some (.int n) => n
    | _ => old
  let boolOr (name : String) (old : Bool) : Bool :=
    match Value.lookup given name with
    | some (.bool b) => b
    | _ => old
  { databaseUrl := textOr "DATABASE_URL" s.databaseUrl
    secretKey := textOr "SECRET_KEY" s.secretKey
    algorithm := textOr "ALGORITHM" s.algorithm
    tokenMinutes := intOr "ACCESS_TOKEN_EXPIRE_MINUTES" s.tokenMinutes
    sessionCookie := textOr "SESSION_COOKIE_NAME" s.sessionCookie
    clientId := optionalOr "GOOGLE_CLIENT_ID" s.clientId
    clientSecret := optionalOr "GOOGLE_CLIENT_SECRET" s.clientSecret
    clientUrl := textOr "CLIENT_URL" s.clientUrl
    serverUrl := textOr "SERVER_URL" s.serverUrl
    batchSize := intOr "AUDIENCE_BATCH_SIZE" s.batchSize
    environment := textOr "ENVIRONMENT" s.environment
    debug := boolOr "DEBUG" s.debug
    docsEnabled := boolOr "DOCS_ENABLED" s.docsEnabled }

/-- How connections to the database are pooled; a database in a file has no pool. -/
def poolOptions (s : Settings) : Value :=
  if "sqlite".toList.isPrefixOf s.databaseUrl.toList then .record []
  else .record [
    ("pool_size", .int 20), ("max_overflow", .int 10), ("pool_recycle", .int 3600),
    ("pool_pre_ping", .bool true)]

end Settings

end Outreach
