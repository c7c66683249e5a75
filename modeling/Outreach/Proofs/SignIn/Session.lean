import Outreach.Proofs.Email.Plain
import Outreach.Proofs.Email.Whole
import Outreach.Proofs.Http.Cookie
import Outreach.Proofs.Session.Lifetime
import Outreach.Proofs.SignIn.Callback

/-! Sessions begin with a completed sign-in only. Where a return asks for nothing, or the provider
opens no profile, the response sets no session cookie and the users stay as they are. Where a session
does begin, its cookie signs in the very user who was stored for the profile. Storing a profile
touches one user at most, and storing it again touches nobody. -/

namespace Outreach

open Http (Request Response)

/-! ### Profiles -/

/-- The address in a profile has only characters. -/
theorem SignInProfile.email_whole {value : Value} {profile : SignInProfile}
    (accepted : read value = .accepted profile) : Text.isWhole profile.email = true := by
  obtain ⟨entries, -, built⟩ := Schema.record_accepted accepted
  obtain ⟨_, picture, named, -, rfl⟩ := Checked.seq_eq_accepted_iff.mp built
  obtain ⟨_, name, addressed, -, rfl⟩ := Checked.seq_eq_accepted_iff.mp named
  obtain ⟨_, email, begun, address, rfl⟩ := Checked.seq_eq_accepted_iff.mp addressed
  obtain ⟨subject, -, rfl⟩ := Checked.map_eq_accepted_iff.mp begun
  obtain ⟨_, -, found⟩ := Schema.required_accepted address
  exact Email.email_whole found

namespace Api

open SignIn

/-! ### Sessions -/

/-- The response has the client keep a session: it gives the session cookie a value. -/
structure BeginsSession (env : Environment) (response : Response) (session : String) : Prop where
  filled : session ≠ ""
  set : ∃ header ∈ response.header "set-cookie",
    Http.Cookie.ofHeader header = (env.settings.sessionCookie.toList, session.toList)

/-- The session of a user comes back with a request: to an application with the same secret, before
the session has expired and as long as the user is stored, with a number that a column holds. -/
structure BringsBack (env : Environment) (session : String) (user : User) (later : Environment)
    (db : Database) (request : Request) : Prop where
  secret : later.settings.secretKey = env.settings.secretKey
  algorithm : later.settings.algorithm = env.settings.algorithm
  cookie : later.startup.sessionCookie = env.settings.sessionCookie
  brings : Http.Cookie.value? (request.header? "cookie") env.settings.sessionCookie = some session
  timely : ∀ second ∈ Token.expiry? env.settings env.now none, later.now.epochSeconds ≤ second
  stored : user ∈ db.users.rows
  fits : fitsColumn user.id = true

section
variable {env later : Environment} {db : Database} {request : Request}
  {user : User} {session : String}

/-- Whoever brings a session back is the user for whom it began. -/
theorem authenticate_session (whole : Text.isWhole user.email = true)
    (issued : Token.issueSession env.settings env.now user.id user.email = .ok session)
    (back : BringsBack env session user later db request) :
    authenticate later db request = .ok user := by
  have presented : Presents later.startup request session := .cookie (back.cookie ▸ back.brings)
  obtain ⟨second, -, expires, -, -⟩ := Token.issueSession_encode issued
  have timely : later.now.epochSeconds ≤
      env.now.epochSeconds + Token.defaultLifetime env.settings := by
    rw [← Token.lastSecond_none, ← Token.expiry?_eq expires]
    exact back.timely second expires
  rw [authenticate_issued back.secret back.algorithm back.stored back.fits whole issued presented,
    if_pos timely]

/-! ### Cookies of the callback -/

theorem failure_begins_nothing (cause : Mishap) :
    ¬ BeginsSession env (sent request (failureResponse env request cause)) session := by
  rintro ⟨-, header, among, -⟩
  rw [header_sent] at among
  cases among

/-- Of the cookies of a redirection, one that has a value begins the session. -/
theorem redirection_begins {written : Database} {address : String}
    {cookies : List Http.Cookie.Setting} (begun : BeginsSession env (exchangeOf env db request
      (.ok ⟨written, some (redirection 302 address cookies)⟩)).response session) :
    ∃ cookie ∈ cookies, Http.Cookie.ofHeader cookie.header.2 =
      (env.settings.sessionCookie.toList, session.toList) := by
  obtain ⟨header, among, read⟩ := begun.set
  rw [header_exchangeOf written rfl (.inr rfl), cookies_redirection] at among
  obtain ⟨cookie, member, rfl⟩ := List.mem_map.mp among
  exact ⟨cookie, member, read⟩

/-- The cookie that takes the state of the sign-in away has no value. -/
theorem removal_begins_nothing {now : Moment} (filled : session ≠ "") :
    Http.Cookie.ofHeader (Http.Cookie.removal stateCookie now).header.2 ≠
      (env.settings.sessionCookie.toList, session.toList) := by
  intro read
  have named : Http.Cookie.isName (Http.Cookie.removal stateCookie now).name = true :=
    show Http.Cookie.isName stateCookie = true by decide
  rw [Http.Cookie.ofHeader_setting named (by simp [Http.Cookie.removal])] at read
  exact filled (by simpa [Http.Cookie.removal] using congrArg Prod.snd read)

theorem rejected_begins_nothing {written : Database} (rejection : Rejection) :
    ¬ BeginsSession env (exchangeOf env db request
      (.ok ⟨written, endSignIn? env (.rejected rejection)⟩)).response session := by
  intro begun
  obtain ⟨cookie, among, read⟩ := redirection_begins begun
  cases List.mem_singleton.mp among
  exact removal_begins_nothing begun.filled read

/-- The cookie of a session that begins. -/
def sessionSetting (env : Environment) (session : String) : Http.Cookie.Setting where
  name := env.settings.sessionCookie
  value := session
  lifetime := env.settings.tokenMinutes * 60
  httpOnly := true
  secure := env.settings.isProduction

theorem endSignIn?_named (named : Http.Cookie.isName env.settings.sessionCookie = true) :
    endSignIn? env (.completed session) = some (redirection 302
      (env.settings.clientUrl ++ "/dashboard")
      [Http.Cookie.removal stateCookie env.now, sessionSetting env session]) :=
  if_neg (by simp [named])

/-- With a completed sign-in begins the session that was made for it, and no other. -/
theorem completed_begins_iff {written : Database} {made : String} (filled : made ≠ "")
    (plain : ∀ c ∈ made.toList, Http.Cookie.isPlain c = true) :
    BeginsSession env (exchangeOf env db request
      (.ok ⟨written, endSignIn? env (.completed made)⟩)).response session ↔
      Http.Cookie.isName env.settings.sessionCookie = true ∧ session = made := by
  cases named : Http.Cookie.isName env.settings.sessionCookie with
  | false =>
    rw [endSignIn?_unnamed named]
    exact iff_of_false (failure_begins_nothing .unforeseen) (by simp)
  | true =>
    rw [endSignIn?_named named]
    have read : Http.Cookie.ofHeader (sessionSetting env made).header.2 =
        (env.settings.sessionCookie.toList, made.toList) :=
      Http.Cookie.ofHeader_setting named plain
    constructor
    · intro begun
      obtain ⟨cookie, among, brought⟩ := redirection_begins begun
      -- The session cookie may even have the name of the one for the state, which is taken away
      -- first: it is the value that tells the two apart.
      rcases List.mem_cons.mp among with rfl | among
      · exact absurd brought (removal_begins_nothing begun.filled)
      · cases List.mem_singleton.mp among
        rw [read] at brought
        exact ⟨rfl, (String.toList_inj.mp (congrArg Prod.snd brought)).symm⟩
    · rintro ⟨-, rfl⟩
      refine ⟨filled, _, ?_, read⟩
      rw [header_exchangeOf written rfl (.inr rfl), cookies_redirection]
      exact List.mem_cons_of_mem _ (List.mem_singleton_self _)

/-! ### Callbacks -/

/-- Without the database nothing is asked and nothing begins. -/
theorem respond_down (method : request.method = "GET")
    (path : request.path = "/auth/google/callback") (down : env.databaseIsUp = false) :
    respond env db request =
      ⟨sent request (failureResponse env request .unforeseen), db, []⟩ := by
  obtain ⟨direct, routed⟩ := callback_routed env db method path
  have handled : handle env db request = ⟨[], mishap .unforeseen⟩ := by
    rw [routed]
    dsimp only [operate]
    rw [if_neg (by simp [down])]
  rw [respond_eq direct, handled]
  rfl

/-- The state that came back is not the one that was kept, or cannot be compared: then nothing is
asked of the provider. -/
theorem callback_unasking (callback : IsCallback env request)
    (differs : verifyState? (keptState request) (returnOf request).state ≠ some true) :
    (respond env db request).calls = [] := by
  have unasked (code : String) : ¬ Asks (keptState request) (returnOf request) code :=
    fun asks => differs (verifyState?_eq_true_iff.mpr asks.state)
  obtain ⟨outcome, completed, -⟩ := complete_unasked env.settings env.provider db env.now unasked
  rw [respond_callback callback]
  exact congrArg Prod.fst completed

/-- Unless a return asks and the provider opens a profile, no session begins and nothing is
stored. -/
theorem callback_closed (callback : IsCallback env request)
    (closed : ∀ code profile, Asks (keptState request) (returnOf request) code →
      ¬ env.provider.Opens profile) :
    (respond env db request).database = db ∧
      ∀ session, ¬ BeginsSession env (respond env db request).response session := by
  rcases complete_closed env.settings db env.now closed with
    ⟨cause, failed⟩ | ⟨rejection, rejected⟩
  · obtain ⟨answer, same⟩ := respond_failed callback failed
    rw [answer]
    exact ⟨same, fun session => failure_begins_nothing cause⟩
  · obtain ⟨answer, same⟩ := respond_ended callback rejected
    rw [answer]
    exact ⟨same, fun session => rejected_begins_nothing rejection⟩

variable (db) in
/-- With a profile that was opened, its user is stored, and any session that begins is made for this
user; or nothing is stored and no session begins. -/
theorem callback_stored (callback : IsCallback env request) {code : String}
    {profile : SignInProfile} (asks : Asks (keptState request) (returnOf request) code)
    (opens : env.provider.Opens profile) :
    ((respond env db request).database = db ∧
      ∀ session, ¬ BeginsSession env (respond env db request).response session) ∨
    ∃ user, Users.upsert db env.now profile = .ok ((respond env db request).database, user) ∧
      ∀ session, BeginsSession env (respond env db request).response session →
        Token.issueSession env.settings env.now user.id user.email = .ok session := by
  have completed : (completionOf env db request).2 = begin env.settings db env.now profile :=
    complete_opened asks opens
  rcases begin_cases env.settings db env.now profile with
    ⟨-, failed⟩ | ⟨-, stored, user, upserted, ⟨made, issued, begun⟩ | ⟨-, begun⟩⟩
  · obtain ⟨answer, same⟩ := respond_failed callback (completed.trans failed)
    rw [answer]
    exact .inl ⟨same, fun session => failure_begins_nothing .severalUsers⟩
  · obtain ⟨answer, same⟩ := respond_ended callback (completed.trans begun)
    obtain ⟨filled, plain⟩ := Token.issueSession_plain issued
    rw [answer, same]
    refine .inr ⟨user, upserted, fun session begins => ?_⟩
    rw [((completed_begins_iff filled plain).mp begins).2]
    exact issued
  · obtain ⟨answer, same⟩ := respond_ended callback (completed.trans begun)
    rw [answer, same]
    exact .inr ⟨user, upserted, fun session begins =>
      absurd begins (failure_begins_nothing .unforeseen)⟩

end

/-! ### A user who signs in -/

namespace Sample

def tokenBody : String := "\x7b\"access_token\":\"tok\"\x7d"

def profileBody : String := "\x7b\"sub\":\"1\",\"email\":\"a@b.cc\"\x7d"

/-- The provider knows the user who comes back. -/
def welcoming : Environment :=
  { environment with provider := ⟨.answered 200 tokenBody, .answered 200 profileBody⟩ }

def profile : SignInProfile := ⟨"1", "a@b.cc", .absent, .absent⟩

def profileFields : List (Value × Value) :=
  [(.text "sub", .text "1"), (.text "email", .text "a@b.cc")]

theorem profile_read : SignInProfile.read (.dict profileFields) = .accepted profile := by
  have held : Value.lookup profileFields "email" = some (.text "a@b.cc") := rfl
  have email := Schema.required_of_lookup held Email.email_sample
  show SignInProfile.mk <$> _ <*> Schema.required profileFields "email" Schema.email <*> _ <*> _ = _
  rw [email]
  rfl

theorem welcoming_opens : welcoming.provider.Opens profile where
  granted := by
    have held : welcoming.provider.token.Holds (.dict [(.text "access_token", .text "tok")]) :=
      ⟨200, tokenBody, rfl, rfl, by cbv⟩
    exact ⟨.text "tok", ⟨_, held, rfl⟩, by decide⟩
  told := ⟨.dict profileFields, ⟨200, profileBody, rfl, rfl, by cbv⟩, profile_read⟩

theorem welcoming_canIssue : Token.CanIssue welcoming.settings welcoming.now :=
  canIssue_minutes (by decide +kernel)

end Sample

/-- Whatever a user comes back with and whatever the provider replies: if the state is not the one
that was kept, nothing is asked of the provider; and a session begins, or the users change, only
where the return brings no error, the state that was kept and a code, and where the provider grants
an access token and tells a valid profile. Then the user of the profile is stored, and whoever
brings the session back is this user. -/
theorem session_begun_by_completion {env : Environment} {db : Database} {request : Request}
    (method : request.method = "GET") (path : request.path = "/auth/google/callback") :
    (verifyState? (keptState request) (returnOf request).state ≠ some true →
      (respond env db request).calls = []) ∧
    ((∃ session, BeginsSession env (respond env db request).response session) ∨
        (respond env db request).database.users ≠ db.users →
      ∃ code profile user, Asks (keptState request) (returnOf request) code ∧
        env.provider.Opens profile ∧ user ∈ (respond env db request).database.users.rows ∧
        user.googleId = profile.subject ∧ user.email = profile.email ∧
        ∀ session, BeginsSession env (respond env db request).response session →
          ∀ later database next, BringsBack env session user later database next →
            authenticate later database next = .ok user) := by
  cases up : env.databaseIsUp with
  | false =>
    rw [respond_down method path up]
    refine ⟨fun _ => rfl, ?_⟩
    rintro (⟨session, begun⟩ | changed)
    · exact absurd begun (failure_begins_nothing .unforeseen)
    · exact absurd rfl changed
  | true =>
    have callback : IsCallback env request := ⟨method, path, up⟩
    refine ⟨callback_unasking callback, fun moved => ?_⟩
    -- If anything moved, the return asked and a profile was opened.
    have unmoved : ¬ ((respond env db request).database = db ∧
        ∀ session, ¬ BeginsSession env (respond env db request).response session) := by
      rintro ⟨same, begins⟩
      rcases moved with ⟨session, begun⟩ | changed
      · exact begins session begun
      · exact changed (congrArg Database.users same)
    by_cases completed : ∃ code profile, Asks (keptState request) (returnOf request) code ∧
        env.provider.Opens profile
    case neg =>
      push Not at completed
      exact absurd (callback_closed callback completed) unmoved
    obtain ⟨code, profile, asks, opens⟩ := completed
    rcases callback_stored db callback asks opens with still | ⟨user, upserted, made⟩
    · exact absurd still unmoved
    obtain ⟨stored, subject, address⟩ := (Users.upsert_isStored upserted).told
    obtain ⟨value, -, accepted⟩ := opens.told
    refine ⟨code, profile, user, asks, opens, stored, subject, address, ?_⟩
    intro session begun later database next back
    have whole : Text.isWhole user.email = true := by
      rw [address]
      exact SignInProfile.email_whole accepted
    exact authenticate_session whole (made session begun) back

open Sample in
/-- The user comes back to a provider who knows them: a session begins, and the request that brings
it back is one of the user who was stored. -/
theorem welcomed_user_returns : ∃ session user,
    BeginsSession welcoming (respond welcoming start comesBack).response session ∧
    authenticate welcoming (respond welcoming start comesBack).database (returning session) =
      .ok user ∧
    user.googleId = "1" ∧ user.email = "a@b.cc" := by
  have callback : IsCallback welcoming comesBack := comesBack_isCallback rfl
  obtain ⟨stored, user, upserted, fit⟩ : ∃ stored user,
      Users.upsert start welcoming.now profile = .ok (stored, user) ∧
      ∀ row ∈ stored.users.rows, fitsColumn row.id = true := ⟨_, _, rfl, by decide⟩
  rcases begin_stored welcoming.settings upserted with
    ⟨session, issued, begun⟩ | ⟨unfit, -⟩
  case inr => exact absurd welcoming_canIssue unfit
  have completed : (completionOf welcoming start comesBack).2 =
      begin welcoming.settings start welcoming.now profile :=
    complete_opened comesBack_asks welcoming_opens
  obtain ⟨answer, written⟩ := respond_ended callback (completed.trans begun)
  obtain ⟨filled, plain⟩ := Token.issueSession_plain issued
  have named : Http.Cookie.isName welcoming.settings.sessionCookie = true := by decide
  have begins : BeginsSession welcoming (respond welcoming start comesBack).response session := by
    rw [answer]
    exact (completed_begins_iff filled plain).mpr ⟨named, rfl⟩
  obtain ⟨code, told, stayed, -, opens, member, subject, address, recognised⟩ :=
    (session_begun_by_completion callback.method callback.path).2 (.inl ⟨session, begins⟩)
  cases welcoming_opens.unique opens
  refine ⟨session, stayed, begins, recognised session begins welcoming _ _ ?_, subject, address⟩
  exact {
    secret := rfl
    algorithm := rfl
    cookie := rfl
    brings := Http.Cookie.value?_alone named plain
    timely := by decide +kernel
    stored := member
    fits := fit stayed (written ▸ member) }

/-! ### The user of a profile -/

/-- Two users who share a profile make the callback fail, and nothing is stored. -/
theorem callback_several {env : Environment} {db : Database} {request : Request}
    (callback : IsCallback env request) {code : String} {profile : SignInProfile}
    (asks : Asks (keptState request) (returnOf request) code) (opens : env.provider.Opens profile)
    (several : Users.upsert db env.now profile = .error (.failed .severalUsers)) :
    IsFailure (respond env db request).response ∧ (respond env db request).database = db := by
  have completed : (completionOf env db request).2 = .error (.failed .severalUsers) := by
    refine (complete_opened asks opens).trans ?_
    unfold begin
    rw [several]
    rfl
  exact ⟨callback_failed callback completed, (respond_failed callback completed).2⟩

/-- Among users of whom no two share a name at the provider or an address, storing a profile touches
one user. If nobody has the name or the address in the profile, a user is added after the others. If
one user has them, this user is brought up to date in place. If two users have them, nobody is
stored: whichever of the two were brought up to date would share the name or the address with the
other. Where the profile is stored, it is that of one user, the others are as they were and share
nothing still, and storing it again changes nothing. -/
theorem profile_stored {db : Database} (apart : Users.AreApart db.users) (now : Moment)
    (profile : SignInProfile) :
    ((∀ row ∈ db.users.rows, ¬ Users.Owns profile row) →
      ∃ stored user, Users.upsert db now profile = .ok (stored, user) ∧
        stored.users.rows = db.users.rows ++ [user] ∧ Users.IsNew db.users profile user) ∧
    (∀ row ∈ db.users.rows, Users.Owns profile row →
      (∀ other ∈ db.users.rows, Users.Owns profile other → other = row) →
      ∃ stored user, Users.upsert db now profile = .ok (stored, user) ∧
        (stored.users.rows = db.users.rows.map fun old => if old.id = row.id then user else old) ∧
        Users.IsRefreshed profile row user) ∧
    (∀ first ∈ db.users.rows, ∀ second ∈ db.users.rows, first ≠ second →
      Users.Owns profile first → Users.Owns profile second →
      Users.upsert db now profile = .error (.failed .severalUsers) ∧
      ¬ Users.AreApart (db.users.replace (Users.refreshed now profile first)) ∧
      ∀ (env : Environment) (request : Request) (code : String), env.now = now →
        IsCallback env request → Asks (keptState request) (returnOf request) code →
        env.provider.Opens profile →
        IsFailure (respond env db request).response ∧ (respond env db request).database = db) ∧
    ∀ stored user, Users.upsert db now profile = .ok (stored, user) →
      Users.IsSettled db profile stored user := by
  refine ⟨fun nobody => ?_, fun row member owns only => ?_, ?_,
    fun stored user upserted => Users.upsert_isSettled apart upserted⟩
  · exact ⟨_, _, Users.upsert_nobody nobody, rfl, Users.newRow_isNew db.users now profile⟩
  · obtain ⟨named, -⟩ := Users.refreshed_profile now profile row
    refine ⟨_, _, Users.upsert_only member owns only, ?_,
      Users.refreshed_isRefreshed now profile row⟩
    rw [← named]
    rfl
  · intro first member second among differ owns also
    have several : Users.upsert db now profile = .error (.failed .severalUsers) :=
      Users.upsert_several member owns among also differ
    refine ⟨several, Users.AreApart.clash member among also differ, ?_⟩
    rintro env request code rfl callback asks opens
    exact callback_several callback asks opens several

open Sample in
/-- Someone who has not been there signs in, and is stored for good. -/
theorem newcomer_stored :
    Users.AreApart start.users ∧ (∀ row ∈ start.users.rows, ¬ Users.Owns profile row) ∧
    ∃ stored user, Users.upsert start welcoming.now profile = .ok (stored, user) ∧
      stored.users.rows = start.users.rows ++ [user] ∧
      Users.IsNew start.users profile user ∧ Users.IsSettled start profile stored user := by
  have apart : Users.AreApart start.users := ⟨by decide, by decide⟩
  have nobody : ∀ row ∈ start.users.rows, ¬ Users.Owns profile row := by
    show ∀ row ∈ [user], _
    refine List.forall_mem_singleton.mpr ?_
    rintro (same | same)
    · exact absurd same (by decide)
    · exact absurd same (by decide)
  obtain ⟨adds, -, -, settles⟩ := profile_stored apart welcoming.now profile
  obtain ⟨stored, user, upserted, rows, isNew⟩ := adds nobody
  exact ⟨apart, nobody, stored, user, upserted, rows, isNew, settles stored user upserted⟩

end Api

end Outreach
