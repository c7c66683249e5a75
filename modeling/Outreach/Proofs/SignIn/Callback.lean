import Outreach.Proofs.Api.Hardened
import Outreach.Proofs.Session.Issued
import Outreach.Proofs.SignIn.Completion

/-! How the return from the consent screen is answered. It ends in a redirection, to the dashboard or
to the login page with an error code, unless the states cannot be compared, the provider's replies
baffle, the profile belongs to two users, or the configuration is such that no session can begin.
Each of these is answered as an unforeseen failure. -/

namespace Outreach

namespace SignIn

/-- The session of a user who was stored begins if a token can be made; if none can, nothing can be
told. -/
theorem begin_stored (settings : Settings) {db stored : Database} {now : Moment}
    {profile : SignInProfile} {user : User}
    (upserted : Users.upsert db now profile = .ok (stored, user)) :
    (∃ session, Token.issueSession settings now user.id user.email = .ok session ∧
      begin settings db now profile = .ok ⟨stored, some (.completed session)⟩) ∨
    (¬ Token.CanIssue settings now ∧ begin settings db now profile = .ok ⟨stored, none⟩) := by
  unfold begin
  rw [upserted]
  dsimp only [bind, Except.bind]
  cases issued : Token.issueSession settings now user.id user.email with
  | ok session => exact .inl ⟨session, rfl, rfl⟩
  | error fault =>
    refine .inr ⟨fun fit => ?_, rfl⟩
    obtain ⟨session, made⟩ := (Token.issueSession_eq_ok_iff user.id user.email).mpr fit
    cases issued.symm.trans made

/-- A profile that two users have makes the sign-in fail; else its user is stored, and a session
begins for the user if a token can be made. -/
theorem begin_cases (settings : Settings) (db : Database) (now : Moment) (profile : SignInProfile) :
    (2 ≤ (db.users.rows.filter (Users.isOwner profile)).length ∧
      begin settings db now profile = .error (.failed .severalUsers)) ∨
    ((db.users.rows.filter (Users.isOwner profile)).length ≤ 1 ∧
      ∃ stored user, Users.upsert db now profile = .ok (stored, user) ∧
        ((∃ session, Token.issueSession settings now user.id user.email = .ok session ∧
          begin settings db now profile = .ok ⟨stored, some (.completed session)⟩) ∨
        (¬ Token.CanIssue settings now ∧
          begin settings db now profile = .ok ⟨stored, none⟩))) := by
  rcases Users.upsert_cases db now profile with ⟨several, failed⟩ | ⟨one, stored, user, upserted⟩
  · refine .inl ⟨several, ?_⟩
    unfold begin
    rw [failed]
    rfl
  · exact .inr ⟨one, stored, user, upserted, begin_stored settings upserted⟩

/-- Where a sign-in ends. -/
def landing (settings : Settings) : Ending → String
  | .rejected rejection =>
      settings.clientUrl ++ "/login?" ++ query [("error", .text rejection.word)]
  | .completed _ => settings.clientUrl ++ "/dashboard"

end SignIn

namespace Api

open Http (Request Response)
open SignIn

/-! ### Redirections -/

/-- The client is sent on to an address. -/
structure IsRedirected (response : Response) (address : String) : Prop where
  status : response.status = 302
  location : response.header "location" = [Http.Target.location address]

/-- The response is a problem document of an unforeseen failure. -/
structure IsFailure (response : Response) : Prop where
  status : response.status = 500
  told : ∃ problem : Problem, response.content = .json problem.toCompactValue

section
variable {env : Environment} {db written : Database} {request : Request}

theorem location_redirection (status : Nat) (address : String)
    (cookies : List Http.Cookie.Setting) :
    (redirection status address cookies).header "location" = [Http.Target.location address] := by
  have none : (cookies.map Http.Cookie.Setting.header).filter
      (fun entry => entry.1 = "location") = [] := by
    simp [Http.Cookie.Setting.header]
  simp [Response.header, redirection, none]

theorem cookies_redirection (status : Nat) (address : String)
    (cookies : List Http.Cookie.Setting) :
    (redirection status address cookies).header "set-cookie" =
      cookies.map fun cookie => cookie.header.2 := by
  have all : (cookies.map Http.Cookie.Setting.header).filter
      (fun entry => entry.1 = "set-cookie") = cookies.map Http.Cookie.Setting.header := by
    simp [Http.Cookie.Setting.header]
  simp [Response.header, redirection, all]

/-- Where a response sends the client, and the cookies that it sets, leave with it. -/
theorem header_exchangeOf (written : Database) {response : Response}
    (sendable : response.isSendable) {name : String}
    (own : name = "location" ∨ name = "set-cookie") :
    (exchangeOf env db request (.ok ⟨written, some response⟩)).response.header name =
      response.header name := by
  have left : (exchangeOf env db request (.ok ⟨written, some response⟩)).response =
      sent request (dressed env request response) := by
    show sent request (handedOut env request response) = _
    unfold handedOut
    rw [if_pos sendable]
  have apart : name ∉ securityNames ++ permissionNames ++ traceNames := by
    rcases own with rfl | rfl <;> decide
  rw [left, header_sent, dressed, header_withHeaders, dressing_named.valuesUnder apart,
    List.append_nil]

/-- A redirection leaves as one, whatever comes with it. -/
theorem exchangeOf_redirection (written : Database) (address : String)
    (cookies : List Http.Cookie.Setting) : IsRedirected (exchangeOf env db request
      (.ok ⟨written, some (redirection 302 address cookies)⟩)).response address where
  status := sent_status _
  location := (header_exchangeOf written rfl (.inl rfl)).trans (location_redirection ..)

theorem failureResponse_isFailure (visible : request.method ≠ "HEAD") (cause : Mishap) :
    IsFailure (sent request (failureResponse env request cause)) := by
  unfold sent
  rw [if_neg visible]
  exact ⟨rfl, _, rfl⟩

/-- A sign-in that is rejected sends the user on, and so does one that is completed if a cookie can
have the name of the session cookie. -/
theorem endSignIn?_told (env : Environment) {ending : Ending}
    (told : (∃ rejection, ending = .rejected rejection) ∨
      Http.Cookie.isName env.settings.sessionCookie = true) :
    ∃ cookies, endSignIn? env ending =
      some (redirection 302 (landing env.settings ending) cookies) := by
  cases ending with
  | rejected rejection => exact ⟨_, rfl⟩
  | completed session =>
    rcases told with ⟨rejection, ⟨⟩⟩ | named
    exact ⟨_, if_neg (by simp [named])⟩

theorem endSignIn?_unnamed {session : String}
    (unnamed : Http.Cookie.isName env.settings.sessionCookie = false) :
    endSignIn? env (.completed session) = none := if_pos (by simp [unnamed])

end

/-! ### The callback -/

/-- A request of a user who comes back from the consent screen. -/
structure IsCallback (env : Environment) (request : Request) : Prop where
  method : request.method = "GET"
  path : request.path = "/auth/google/callback"
  up : env.databaseIsUp = true

/-- The state that was kept for the user. -/
def keptState (request : Request) : Option String :=
  Http.Cookie.value? (request.header? "cookie") stateCookie

/-- What the user comes back with. -/
def returnOf (request : Request) : Return where
  error := request.parameter? "error"
  state := request.parameter? "state"
  code := request.parameter? "code"

/-- What a return leads to before it is answered, with the calls made to the provider. -/
def completionOf (env : Environment) (db : Database) (request : Request) :
    List Call × Except Halt (Effect Ending) :=
  complete env.settings env.provider db env.now (keptState request) (returnOf request)

/-- Sign-ins that break where they should be turned down. -/
inductive IsBroken (env : Environment) (db : Database) (request : Request) : Prop where
  | states (foreign : IsForeign (keptState request) (returnOf request))
  | replies {code : String} (asks : Asks (keptState request) (returnOf request) code)
      (baffles : env.provider.Baffles)
  | users {code : String} {profile : SignInProfile}
      (asks : Asks (keptState request) (returnOf request) code)
      (opens : env.provider.Opens profile)
      (several : 2 ≤ (db.users.rows.filter (Users.isOwner profile)).length)
  | session {code : String} {profile : SignInProfile}
      (asks : Asks (keptState request) (returnOf request) code)
      (opens : env.provider.Opens profile)
      (unfit : ¬ (Token.CanIssue env.settings env.now ∧
        Http.Cookie.isName env.settings.sessionCookie = true))

section
variable {env : Environment} {db : Database} {request : Request}

variable (env db) in
/-- Where the callback goes. -/
theorem callback_routed (method : request.method = "GET")
    (path : request.path = "/auth/google/callback") : Http.Cors.isInquiry request = false ∧
      handle env db request = operate env db request .signIn [] := by
  have routed : routing request.method request.path = .found .signIn [] := by
    rw [method, path]
    cbv
  refine ⟨by simp [Http.Cors.isInquiry, method], ?_⟩
  unfold handle
  rw [routed]

/-- The callback is answered by what the return leads to. -/
theorem respond_callback (callback : IsCallback env request) : respond env db request =
    { exchangeOf env db request ((completionOf env db request).2.map fun effect =>
        ⟨effect.database, effect.answer.bind (endSignIn? env)⟩) with
      calls := (completionOf env db request).1 } := by
  obtain ⟨direct, routed⟩ := callback_routed env db callback.method callback.path
  have handled : handle env db request = ⟨(completionOf env db request).1,
      (completionOf env db request).2.map fun effect =>
        ⟨effect.database, effect.answer.bind (endSignIn? env)⟩⟩ := by
    rw [routed]
    dsimp only [operate]
    rw [if_pos callback.up]
    rfl
  rw [respond_eq direct, handled]

/-- A sign-in that comes to an end is answered by what tells of it. -/
theorem respond_ended (callback : IsCallback env request) {written : Database}
    {ending : Option Ending} (ended : (completionOf env db request).2 = .ok ⟨written, ending⟩) :
    (respond env db request).response = (exchangeOf env db request
      (.ok ⟨written, ending.bind (endSignIn? env)⟩)).response ∧
    (respond env db request).database = written := by
  rw [respond_callback callback, ended]
  exact ⟨rfl, rfl⟩

theorem respond_failed (callback : IsCallback env request) {cause : Mishap}
    (failed : (completionOf env db request).2 = .error (.failed cause)) :
    (respond env db request).response = sent request (failureResponse env request cause) ∧
    (respond env db request).database = db := by
  rw [respond_callback callback, failed]
  exact ⟨rfl, rfl⟩

/-- An ending that can be told sends the user on. -/
theorem callback_told (callback : IsCallback env request) {written : Database} {ending : Ending}
    (ended : (completionOf env db request).2 = .ok ⟨written, some ending⟩)
    (told : (∃ rejection, ending = .rejected rejection) ∨
      Http.Cookie.isName env.settings.sessionCookie = true) :
    IsRedirected (respond env db request).response (landing env.settings ending) := by
  obtain ⟨cookies, told⟩ := endSignIn?_told env told
  rw [(respond_ended callback ended).1, Option.bind_some, told]
  exact exchangeOf_redirection written _ cookies

/-- What cannot be told is answered as a failure. -/
theorem callback_untold (callback : IsCallback env request) {written : Database}
    {ending : Option Ending} (ended : (completionOf env db request).2 = .ok ⟨written, ending⟩)
    (untold : ending.bind (endSignIn? env) = none) :
    IsFailure (respond env db request).response := by
  rw [(respond_ended callback ended).1, untold]
  exact failureResponse_isFailure (by simp [callback.method]) .unforeseen

theorem callback_failed (callback : IsCallback env request) {cause : Mishap}
    (failed : (completionOf env db request).2 = .error (.failed cause)) :
    IsFailure (respond env db request).response := by
  rw [(respond_failed callback failed).1]
  exact failureResponse_isFailure (by simp [callback.method]) cause

/-! ### Where the callback breaks -/

/-- With a profile that was opened, the user is stored and sent to the dashboard, unless two users
have the profile or no session can begin. -/
theorem callback_opened (callback : IsCallback env request) {code : String}
    {profile : SignInProfile} (asks : Asks (keptState request) (returnOf request) code)
    (opens : env.provider.Opens profile) :
    (IsBroken env db request ∧ IsFailure (respond env db request).response) ∨
    (¬ IsBroken env db request ∧ ∃ session, IsRedirected (respond env db request).response
      (landing env.settings (.completed session))) := by
  have completed : (completionOf env db request).2 = begin env.settings db env.now profile :=
    complete_opened asks opens
  rcases begin_cases env.settings db env.now profile with
    ⟨several, failed⟩ | ⟨one, stored, user, -, ⟨session, issued, begun⟩ | ⟨unfit, begun⟩⟩
  · exact .inl ⟨.users asks opens several, callback_failed callback (completed.trans failed)⟩
  · cases named : Http.Cookie.isName env.settings.sessionCookie with
    | false =>
      refine .inl ⟨.session asks opens fun fit => ?_, ?_⟩
      · cases named.symm.trans fit.2
      · exact callback_untold callback (completed.trans begun) (endSignIn?_unnamed named)
    | true =>
      refine .inr ⟨?_, session, callback_told callback (completed.trans begun) (.inr named)⟩
      have fit := (Token.issueSession_eq_ok_iff user.id user.email).mp ⟨session, issued⟩
      rintro (foreign | ⟨-, baffles⟩ | ⟨-, others, several⟩ | ⟨-, -, unfit⟩)
      · exact asks.not_foreign foreign
      · exact opens.not_baffles baffles
      · cases opens.unique others
        omega
      · exact unfit ⟨fit, named⟩
  · refine .inl ⟨.session asks opens fun fit => unfit fit.1, ?_⟩
    exact callback_untold callback (completed.trans begun) rfl

/-- A return that asks for nothing is rejected, unless its states cannot be compared. -/
theorem callback_unasked (callback : IsCallback env request)
    (unasked : ∀ code, ¬ Asks (keptState request) (returnOf request) code) :
    (IsBroken env db request ∧ IsFailure (respond env db request).response) ∨
    (¬ IsBroken env db request ∧ ∃ rejection, IsRedirected (respond env db request).response
      (landing env.settings (.rejected rejection))) := by
  obtain ⟨outcome, completed, ended⟩ := complete_unasked env.settings env.provider db env.now unasked
  have completed : (completionOf env db request).2 = outcome := congrArg Prod.snd completed
  rcases ended with ⟨foreign, failed⟩ | ⟨compared, rejection, rejected⟩
  · exact .inl ⟨.states foreign, callback_failed callback (completed.trans failed)⟩
  · refine .inr ⟨?_, rejection, ?_⟩
    · rintro (foreign | ⟨asks, -⟩ | ⟨asks, -, -⟩ | ⟨asks, -, -⟩)
      · exact compared foreign
      · exact unasked _ asks
      · exact unasked _ asks
      · exact unasked _ asks
    · exact callback_told callback (completed.trans rejected) (.inl ⟨rejection, rfl⟩)

/-- Where the provider opens no profile the sign-in is rejected, unless the replies baffle. -/
theorem callback_unopened (callback : IsCallback env request) {code : String}
    (asks : Asks (keptState request) (returnOf request) code)
    (closed : ∀ profile, ¬ env.provider.Opens profile) :
    (IsBroken env db request ∧ IsFailure (respond env db request).response) ∨
    (¬ IsBroken env db request ∧ IsRedirected (respond env db request).response
      (landing env.settings (.rejected .exchangeFailed))) := by
  rcases complete_unopened env.settings db env.now asks closed with
    ⟨baffles, failed⟩ | ⟨calm, rejected⟩
  · exact .inl ⟨.replies asks baffles, callback_failed callback failed⟩
  · refine .inr ⟨?_, callback_told callback rejected (.inl ⟨.exchangeFailed, rfl⟩)⟩
    rintro (foreign | ⟨-, baffles⟩ | ⟨-, opens, -⟩ | ⟨-, opens, -⟩)
    · exact asks.not_foreign foreign
    · exact calm baffles
    · exact closed _ opens
    · exact closed _ opens

variable (db) in
theorem callback_settled (callback : IsCallback env request) :
    (IsBroken env db request ∧ IsFailure (respond env db request).response) ∨
    (¬ IsBroken env db request ∧ ∃ ending, IsRedirected (respond env db request).response
      (landing env.settings ending)) := by
  by_cases asked : ∃ code, Asks (keptState request) (returnOf request) code
  case neg =>
    push Not at asked
    exact (callback_unasked callback asked).imp_right
      fun ⟨whole, rejection, redirected⟩ => ⟨whole, .rejected rejection, redirected⟩
  obtain ⟨code, asks⟩ := asked
  by_cases opened : ∃ profile, env.provider.Opens profile
  case neg =>
    push Not at opened
    exact (callback_unopened callback asks opened).imp_right
      fun ⟨whole, redirected⟩ => ⟨whole, _, redirected⟩
  obtain ⟨profile, opens⟩ := opened
  exact (callback_opened callback asks opens).imp_right
    fun ⟨whole, session, redirected⟩ => ⟨whole, .completed session, redirected⟩

end

/-! ### A return to the application -/

namespace Sample

/-- The user comes back with a code and with the state that was kept. -/
def comesBack : Request where
  method := "GET"
  path := "/auth/google/callback"
  query := "code=c&state=s"
  headers := [("cookie", "oauth_state=s")]

theorem comesBack_asks : Asks (keptState comesBack) (returnOf comesBack) "c" where
  untroubled := by decide +kernel
  state := ⟨"s", ⟨⟨by decide +kernel, by decide⟩, ⟨by decide +kernel, by decide⟩⟩, by decide⟩
  code := ⟨by decide +kernel, by decide⟩

theorem comesBack_isCallback {env : Environment} (up : env.databaseIsUp = true) :
    IsCallback env comesBack := ⟨rfl, rfl, up⟩

/-- The provider answers the exchange of the code with a text that is no JSON. -/
def unreadable : Environment :=
  { environment with provider := ⟨.answered 200 "not json", .unreachable⟩ }

theorem unreadable_baffles : unreadable.provider.Baffles :=
  .tokens ⟨200, "not json", .invalid 0, rfl, rfl, by rfl⟩

end Sample

/-- Whatever a user comes back with, whatever the provider replies and whoever is stored: the
callback sends the user on, to the dashboard or to the login page with an error code, unless it is
one of those that break; and those are answered as unforeseen failures. -/
theorem callback_answered {env : Environment} {db : Database} {request : Request}
    (callback : IsCallback env request) :
    (¬ IsBroken env db request → ∃ ending,
      IsRedirected (respond env db request).response (landing env.settings ending)) ∧
    (IsBroken env db request → IsFailure (respond env db request).response) := by
  rcases callback_settled db callback with ⟨broken, failure⟩ | ⟨whole, redirected⟩
  · exact ⟨fun whole => absurd broken whole, fun _ => failure⟩
  · exact ⟨fun _ => redirected, fun broken => absurd broken whole⟩

open Sample in
/-- A provider that cannot be reached breaks nothing: the user is sent to the login page. -/
theorem unreachable_provider_answered :
    IsCallback environment comesBack ∧ ¬ IsBroken environment start comesBack ∧
    ∃ ending, IsRedirected (respond environment start comesBack).response
      (landing environment.settings ending) := by
  have callback : IsCallback environment comesBack := comesBack_isCallback rfl
  have unheld (value : Value) : ¬ environment.provider.token.Holds value := by
    rintro ⟨_, _, ⟨⟩, -⟩
  have closed (profile : SignInProfile) : ¬ environment.provider.Opens profile := by
    rintro ⟨⟨_, ⟨_, held, -⟩, -⟩, -⟩
    exact unheld _ held
  have whole : ¬ IsBroken environment start comesBack := by
    rintro (foreign | ⟨-, baffles⟩ | ⟨-, opens, -⟩ | ⟨-, opens, -⟩)
    · exact comesBack_asks.not_foreign foreign
    · rcases baffles with ⟨_, _, _, ⟨⟩, -⟩ | ⟨held, -, -⟩ | ⟨held, -, -⟩ | ⟨⟨⟨_, held, -⟩, -⟩, -⟩
      · exact unheld _ held
      · exact unheld _ held
      · exact unheld _ held
    · exact closed _ opens
    · exact closed _ opens
  exact ⟨callback, whole, (callback_answered callback).1 whole⟩

open Sample in
/-- A reply of the provider that is no JSON is answered by an error body, and by no redirection. -/
theorem unreadable_reply_fails :
    IsCallback unreadable comesBack ∧
    IsFailure (respond unreadable start comesBack).response ∧
    ∀ address, ¬ IsRedirected (respond unreadable start comesBack).response address := by
  have callback : IsCallback unreadable comesBack := comesBack_isCallback rfl
  have failure : IsFailure (respond unreadable start comesBack).response := by
    rcases callback_settled start callback with ⟨-, failure⟩ | ⟨whole, -⟩
    · exact failure
    · exact absurd (.replies comesBack_asks unreadable_baffles) whole
  refine ⟨callback, failure, fun address redirected => ?_⟩
  cases failure.status.symm.trans redirected.status

end Api

end Outreach
