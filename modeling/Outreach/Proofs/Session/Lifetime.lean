import Outreach.Proofs.Api.Step
import Outreach.Proofs.Http.Cookie
import Outreach.Proofs.Number.Compared
import Outreach.Proofs.Session.Issued

/-! Whom a token stands for, and how long. A request is sent with it as a cookie or in the
authorization header, and is one of the user for whom it was issued up to the end of the second in
which its lifetime is over. -/

namespace Outreach

theorem Text.length_digits_column {n : Int} (fits : fitsColumn n = true) :
    (digits n.natAbs).length ≤ maxIntegerDigits := by
  have small : n.natAbs < powerOfTen 19 := by
    simp only [fitsColumn, Bool.and_eq_true, decide_eq_true_eq] at fits
    have width : powerOfTwo 63 < powerOfTen 19 := by decide
    omega
  exact Nat.le_trans (length_digits_le small (by decide)) (by decide)

namespace Api

open Http (Request)

/-! ### Who sends a request -/

section
variable {env later : Environment} {db : Database} {request : Request} {user : User}
  {session : String}

/-- A request is sent with a token: in the session cookie, or in the authorization header where no
session cookie says anything. -/
inductive Presents (startup : Settings) (request : Request) (token : String) : Prop where
  | cookie (brings :
      Http.Cookie.value? (request.header? "cookie") startup.sessionCookie = some token)
  | bearer (scheme : String) (named : scheme.toList.map Char.toLower = "bearer".toList)
      (authorized : request.header? "authorization" = some (scheme ++ " " ++ token))
      (uncookied : nonempty?
        (Http.Cookie.value? (request.header? "cookie") startup.sessionCookie) = none)

/-- The token in an authorization header is what follows the name of its scheme. -/
theorem bearerToken?_scheme {scheme token : String}
    (named : scheme.toList.map Char.toLower = "bearer".toList) (filled : token ≠ "") :
    bearerToken? (scheme ++ " " ++ token) = some token := by
  have first : ' ' ∉ scheme.toList := by
    intro member
    have lower : ' '.toLower ∈ "bearer".toList := named ▸ List.mem_map_of_mem member
    exact absurd lower (by decide)
  have written : (scheme ++ " " ++ token).toList = scheme.toList ++ ' ' :: token.toList := by simp
  unfold bearerToken?
  rw [written, Form.splitOnce_append first]
  dsimp only
  rw [if_pos ⟨named, by simpa using filled⟩, String.ofList_toList]

theorem tokenOf?_presented {token : String} (filled : token ≠ "")
    (presented : Presents env.startup request token) : tokenOf? env request = some token := by
  unfold tokenOf?
  dsimp only
  cases presented with
  | cookie brings =>
    rw [brings, nonempty?_eq_some_iff.mpr ⟨rfl, filled⟩]
    rfl
  | bearer scheme named authorized uncookied =>
    rw [uncookied, authorized]
    exact bearerToken?_scheme named filled

/-- Who sends the token of a session is the user for whom it was issued, as long as the token is
good. -/
theorem authenticate_issued (secret : later.settings.secretKey = env.settings.secretKey)
    (algorithm : later.settings.algorithm = env.settings.algorithm)
    (stored : user ∈ db.users.rows) (fits : fitsColumn user.id = true)
    (whole : Text.isWhole user.email = true)
    (issued : Token.issueSession env.settings env.now user.id user.email = .ok session)
    (presented : Presents later.startup request session) :
    authenticate later db request =
      if later.now.epochSeconds ≤ env.now.epochSeconds + Token.defaultLifetime env.settings then
        .ok user
      else refuse .invalidCredentials := by
  have filled := (Token.issueSession_plain issued).1
  have named := Token.user_issueSession secret algorithm whole
    (Text.length_digits_column fits) issued later.now
  have found : db.users.find? user.id = some user := Table.find?_eq_some_iff.mpr ⟨stored, rfl⟩
  have within : ensureFits user.id = .ok () := ensureFits_eq_ok_iff.mpr fits
  unfold authenticate
  rw [tokenOf?_presented filled presented]
  dsimp only
  unfold identify
  rw [named]
  by_cases timely : later.now.epochSeconds ≤
      env.now.epochSeconds + Token.defaultLifetime env.settings
  · rw [if_pos timely, if_pos timely]
    dsimp only [bind, Except.bind]
    rw [within]
    dsimp only
    rw [found]
    rfl
  · rw [if_neg timely, if_neg timely]
    rfl

end

/-! ### How long tokens are good -/

/-- A user of the database, with a number and an address that a column holds. -/
structure IsUser (db : Database) (user : User) : Prop where
  among : user ∈ db.users.rows
  fits : fitsColumn user.id = true
  whole : Text.isWhole user.email = true

/-- Whoever sends the request is turned away for want of good credentials. -/
def IsTurnedAway (env : Environment) (db : Database) (request : Request) : Prop :=
  ∃ refusal, authenticate env db request = .error (.refused refusal) ∧ refusal.status = 401

/-- Under the secret and the way to sign under which it was made, a token is good for as long as it
was made for, and no longer. The token of a session can be made for every user or for none. Sent as
a cookie or in the authorization header, it stands for the user up to the end of the second in which
the lifetime is over, and for nobody after it. A token for other claims can be made unless they are
nested too deep or hold a whole number of too many digits. If apart from its subject none of them
has a meaning for tokens, it tells the claims as they were, with the second in which it expires,
up to the end of this second. -/
theorem token_good_for_lifetime {env later : Environment}
    (secret : later.settings.secretKey = env.settings.secretKey)
    (algorithm : later.settings.algorithm = env.settings.algorithm) :
    (∀ db user, IsUser db user →
      ((∃ token, Token.issueSession env.settings env.now user.id user.email = .ok token) ↔
        Token.CanIssue env.settings env.now) ∧
      ∀ token request,
        Token.issueSession env.settings env.now user.id user.email = .ok token →
        Presents later.startup request token →
        (later.now.epochSeconds ≤ env.now.epochSeconds + env.settings.tokenMinutes * 60 →
          authenticate later db request = .ok user) ∧
        (env.now.epochSeconds + env.settings.tokenMinutes * 60 < later.now.epochSeconds →
          IsTurnedAway later db request)) ∧
    ∀ claims lifetime, Token.ArePlain claims →
      ((∃ token, Token.issue env.settings env.now lifetime claims = .ok token) ↔
        Token.IsIssuable env.settings env.now lifetime claims) ∧
      ∀ token, Token.issue env.settings env.now lifetime claims = .ok token →
        (later.now.epochSeconds ≤ Token.lastSecond env.settings env.now lifetime →
          Token.verify later.settings later.now token =
            .ok (Token.dated env.settings env.now lifetime claims)) ∧
        (Token.lastSecond env.settings env.now lifetime < later.now.epochSeconds →
          Token.verify later.settings later.now token = .error .invalid) := by
  refine ⟨fun db user stored => ⟨Token.issueSession_eq_ok_iff user.id user.email, ?_⟩,
    fun claims lifetime plain => ⟨Token.issue_iff plain.document plain.unsplit, ?_⟩⟩
  · intro token request issued presented
    have told := authenticate_issued secret algorithm stored.among stored.fits stored.whole issued
      presented
    constructor
    · intro timely
      rw [told]
      exact if_pos timely
    · intro late
      refine ⟨.invalidCredentials, ?_, rfl⟩
      rw [told]
      exact if_neg (Int.not_le.mpr late)
  · intro token issued
    have told := Token.verify_plain secret algorithm plain issued later.now
    constructor
    · intro timely
      rw [told, if_pos timely]
    · intro late
      rw [told, if_neg (Int.not_le.mpr late)]

namespace Sample

theorem canIssue_minutes {minutes : Int}
    (expires : (Token.expiry? { tokenMinutes := minutes } environment.now none).isSome = true) :
    Token.CanIssue { tokenMinutes := minutes } environment.now where
  expires := Option.isSome_iff_exists.mp expires
  algorithm := ⟨.hs256, rfl⟩
  secret := show Token.isPublicKey ({} : Settings).secretKey = false by decide +kernel

/-- An environment in which tokens are good for an hour. -/
def hourly : Environment := { environment with settings := { tokenMinutes := 60 } }

theorem hourly_canIssue : Token.CanIssue hourly.settings hourly.now :=
  canIssue_minutes (by decide +kernel)

/-- The last microsecond in which a token is good. -/
def lastMoment : Environment :=
  { hourly with now := { hourly.now with time := ⟨1, 0, 0, 999999, by decide⟩ } }

def momentAfter : Environment :=
  { hourly with now := { hourly.now with time := ⟨1, 0, 1, 0, by decide⟩ } }

/-- A request that brings a session. -/
def returning (session : String) : Request where
  method := "GET"
  path := "/auth/me"
  headers := [("cookie", "session" ++ "=" ++ session)]

/-- A request that brings a token in its authorization header. -/
def bearing (token : String) : Request where
  method := "GET"
  path := "/auth/me"
  headers := [("authorization", "Bearer" ++ " " ++ token)]

/-- What the bearer may do. -/
def grant : Token.Claims := [(.text "scope", .text "read")]

theorem grant_plain : Token.ArePlain grant :=
  .single (by decide) (by decide) (isDocument_builtUp.text "read")
    (Json.hasUnsplitTexts_text (Json.isUnsplit_of_whole (by decide)))

/-- Claims that are written can be issued. -/
theorem issuable_of_write? {claims : Token.Claims} (document : IsDocument (.dict claims))
    (shallow : (Value.dict (Token.dated hourly.settings hourly.now none claims)).depth ≤
      Json.maxDepth)
    (written : (Json.write? (.dict (Token.dated hourly.settings hourly.now none
      claims))).isSome = true) :
    Token.IsIssuable hourly.settings hourly.now none claims where
  expires := hourly_canIssue.expires
  algorithm := hourly_canIssue.algorithm
  secret := hourly_canIssue.secret
  shallow
  short := by
    obtain ⟨text, written⟩ := Option.isSome_iff_exists.mp written
    exact Json.hasShortNumbers_of_write?
      (Token.isDocument_withClaim document "exp" _).1 written

end Sample

open Sample in
/-- A user is known by a token for an hour to the microsecond, however it is sent. -/
theorem user_known_for_an_hour :
    IsUser start user ∧ Token.ArePlain grant ∧
    ∃ session token, Token.issueSession hourly.settings hourly.now user.id user.email =
        .ok session ∧
      authenticate lastMoment start (returning session) = .ok user ∧
      authenticate lastMoment start (bearing session) = .ok user ∧
      IsTurnedAway momentAfter start (returning session) ∧
      Token.issue hourly.settings hourly.now none grant = .ok token ∧
      Token.verify lastMoment.settings lastMoment.now token =
        .ok (Token.dated hourly.settings hourly.now none grant) ∧
      Token.verify momentAfter.settings momentAfter.now token = .error .invalid := by
  have stored : IsUser start user := ⟨List.mem_singleton_self _, by decide, by decide⟩
  obtain ⟨sessions, claims⟩ :=
    @token_good_for_lifetime hourly lastMoment rfl rfl
  obtain ⟨later, laterClaims⟩ :=
    @token_good_for_lifetime hourly momentAfter rfl rfl
  obtain ⟨made, known⟩ := sessions start user stored
  obtain ⟨session, issued⟩ := made.mpr hourly_canIssue
  obtain ⟨possible, told⟩ := claims grant none grant_plain
  obtain ⟨token, granted⟩ := possible.mpr
    (issuable_of_write? grant_plain.document (by decide +kernel) (by decide +kernel))
  obtain ⟨filled, plain⟩ := Token.issueSession_plain issued
  have named : Http.Cookie.isName hourly.settings.sessionCookie = true := by decide
  have cookie : Presents hourly.startup (returning session) session :=
    .cookie (Http.Cookie.value?_alone named plain)
  have header : Presents lastMoment.startup (bearing session) session :=
    .bearer "Bearer" (by decide) rfl rfl
  have timely : lastMoment.now.epochSeconds ≤
      hourly.now.epochSeconds + hourly.settings.tokenMinutes * 60 := by decide +kernel
  have late : hourly.now.epochSeconds + hourly.settings.tokenMinutes * 60 <
      momentAfter.now.epochSeconds := by decide +kernel
  exact ⟨stored, grant_plain, session, token, issued,
    (known session _ issued cookie).1 timely,
    (known session _ issued header).1 timely,
    ((later start user stored).2 session _ issued cookie).2 late,
    granted, (told token granted).1 (by decide +kernel),
    ((laterClaims grant none grant_plain).2 token granted).2 (by decide +kernel)⟩

namespace Sample

/-- A value as deep as it is told to be. -/
def descent : Nat → Value
  | 0 => .int 1
  | levels + 1 => .record [("condition", .text "AND"), ("rules", .list [descent levels])]

theorem descent_document (levels : Nat) : IsDocument (descent levels) := by
  induction levels with
  | zero => exact isDocument_builtUp.int 1
  | succ levels ih =>
    exact isDocument_builtUp.put _ "rules" _
      (isDocument_builtUp.put [] "condition" _ isDocument_builtUp.empty
        (isDocument_builtUp.text "AND"))
      (isDocument_builtUp.list _ (List.forall_mem_singleton.mpr ih))

theorem descent_unsplit (levels : Nat) : Json.HasUnsplitTexts (descent levels) := by
  have condition : Json.IsUnsplit "condition".toList := Json.isUnsplit_of_whole (by decide)
  have all : Json.IsUnsplit "AND".toList := Json.isUnsplit_of_whole (by decide)
  have rules : Json.IsUnsplit "rules".toList := Json.isUnsplit_of_whole (by decide)
  induction levels with
  | zero => exact Json.hasUnsplitTexts_int 1
  | succ levels ih =>
    have parts := Json.hasUnsplitTexts_list (List.forall_mem_singleton.mpr ih)
    have first := Json.hasUnsplitTexts_empty.put condition (Json.hasUnsplitTexts_text all)
    exact first.put rules parts

theorem levels_le_depth (levels : Nat) : levels ≤ (descent levels).depth := by
  induction levels with
  | zero => exact Nat.zero_le _
  | succ levels ih =>
    simp only [descent, Value.record, List.map_cons, List.map_nil, Value.depth, Value.depthOf,
      Value.entryDepth]
    omega

def deepClaims : Token.Claims := [(.text "a", descent 6000)]

def vastClaims : Token.Claims := [(.text "a", .int (powerOfTen Json.maxDigits))]

/-- Claims with a digest of another token, which nobody has to compare it with. -/
def digestClaims : Token.Claims := [(.text "sub", .text "1"), (.text "at_hash", .text "x")]

theorem deepClaims_plain : Token.ArePlain deepClaims :=
  .single (by decide) (by decide) (descent_document 6000) (descent_unsplit 6000)

theorem vastClaims_plain : Token.ArePlain vastClaims :=
  .single (by decide) (by decide) (isDocument_builtUp.int _) (Json.hasUnsplitTexts_int _)

theorem digestClaims_document : IsDocument (.dict digestClaims) :=
  isDocument_builtUp.put _ "at_hash" _
    (isDocument_builtUp.put [] "sub" _ isDocument_builtUp.empty (isDocument_builtUp.text "1"))
    (isDocument_builtUp.text "x")

theorem digestClaims_unsplit : Json.HasUnsplitTexts (.dict digestClaims) := by
  have subject : Json.IsUnsplit "sub".toList := Json.isUnsplit_of_whole (by decide)
  have digest : Json.IsUnsplit "at_hash".toList := Json.isUnsplit_of_whole (by decide)
  have one : Json.IsUnsplit "1".toList := Json.isUnsplit_of_whole (by decide)
  have letter : Json.IsUnsplit "x".toList := Json.isUnsplit_of_whole (by decide)
  exact (Json.hasUnsplitTexts_empty.put subject (Json.hasUnsplitTexts_text one)).put digest
    (Json.hasUnsplitTexts_text letter)

section
variable {settings : Settings} {now : Moment} {lifetime : Option Int} {value : Value}

/-- One claim comes before the second in which the token expires. -/
theorem dated_single : Token.dated settings now lifetime [(.text "a", value)] =
    [(.text "a", value), (.text "exp", .int (Token.lastSecond settings now lifetime))] := rfl

theorem issue_too_deep (plain : Token.ArePlain [(.text "a", value)])
    (deep : Json.maxDepth < value.depth) (token : String) :
    Token.issue settings now lifetime [(.text "a", value)] ≠ .ok token := by
  intro issued
  have shallow := ((Token.issue_iff plain.document plain.unsplit).mp ⟨token, issued⟩).shallow
  rw [dated_single] at shallow
  simp only [Value.depth, Value.entryDepth] at shallow
  omega

theorem issue_too_long {n : Int} (plain : Token.ArePlain [(.text "a", .int n)])
    (long : Json.maxDigits < (Text.digits n.natAbs).length) (token : String) :
    Token.issue settings now lifetime [(.text "a", .int n)] ≠ .ok token := by
  intro issued
  have short := ((Token.issue_iff plain.document plain.unsplit).mp ⟨token, issued⟩).short n
    (.inside (.entry (List.mem_cons_self ..)) .whole)
  omega

end

theorem digits_powerOfTen (width : Nat) :
    width < (Text.digits (powerOfTen width : Int).natAbs).length := by
  have filled : powerOfTen width < powerOfTen (Text.digits (powerOfTen width)).length :=
    Decimal.lt_length (powerOfTen width)
  rw [Int.natAbs_natCast]
  exact (Nat.pow_lt_pow_iff_right (by decide)).mp filled

end Sample

open Sample in
/-- Claims can be too deep for a token, or hold a number that is too long for one. And with a digest
among the claims a token is made, but never taken. -/
theorem claims_lost :
    (Token.ArePlain deepClaims ∧
      ∀ token, Token.issue hourly.settings hourly.now none deepClaims ≠ .ok token) ∧
    (Token.ArePlain vastClaims ∧
      ∀ token, Token.issue hourly.settings hourly.now none vastClaims ≠ .ok token) ∧
    IsDocument (.dict digestClaims) ∧
    (∀ name ∈ ["iss", "exp", "iat", "nbf", "aud", "jti"],
      Value.lookup digestClaims name = none) ∧
    ∃ token, Token.issue hourly.settings hourly.now none digestClaims = .ok token ∧
      Token.verify hourly.settings hourly.now token = .error .invalid := by
  have deep : Json.maxDepth < (descent 6000).depth :=
    Nat.lt_of_lt_of_le (by decide) (levels_le_depth 6000)
  have unregistered : ∀ name ∈ ["iss", "exp", "iat", "nbf", "aud", "jti"],
      Value.lookup digestClaims name = none := by
    simp only [List.forall_mem_cons]
    exact ⟨rfl, rfl, rfl, rfl, rfl, rfl, by simp⟩
  obtain ⟨token, issued⟩ := (Token.issue_iff digestClaims_document digestClaims_unsplit).mpr
    (issuable_of_write? digestClaims_document (by decide +kernel) (by decide +kernel))
  refine ⟨⟨deepClaims_plain, issue_too_deep deepClaims_plain deep⟩,
    ⟨vastClaims_plain, issue_too_long vastClaims_plain (digits_powerOfTen Json.maxDigits)⟩,
    digestClaims_document, unregistered, token, issued, ?_⟩
  have refused : Token.checkClaims hourly.now
      (Token.dated hourly.settings hourly.now none digestClaims) = .error .invalid := by
    decide +kernel
  rw [Token.verify_issue rfl rfl digestClaims_document digestClaims_unsplit issued hourly.now,
    refused]
  rfl

end Api

end Outreach
