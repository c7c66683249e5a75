import Outreach.Proofs.Api.References
import Outreach.Proofs.Problem.Told

/-! Strangers, who have no token that is taken. Under the interface of the application every
operation is one of signed-in users, and who sends a request is found out before any table is read.
So a stranger changes nothing, and is answered the same whatever the database holds. -/

namespace Outreach

/-! ### Documents without their occasion -/

/-- A problem without when it occurred and by what it can be traced. -/
def Problem.undated (problem : Problem) : Problem :=
  { problem with timestamp := "", traceId := "" }

/-- Whether a member of a document says when a problem occurred or by what it can be traced. -/
def Problem.isOccasion (member : Value × Value) : Bool :=
  member.1.asText? = some "timestamp" || member.1.asText? = some "trace_id"

/-- Content without when a problem occurred and by what it can be traced. -/
def Http.Content.timeless : Http.Content → Http.Content
  | .json (.dict members) => .json (.dict (members.filter fun member => !Problem.isOccasion member))
  | content => content

theorem Problem.timeless_undated (problem : Problem) :
    (Http.Content.json problem.undated.toCompactValue).timeless =
      (Http.Content.json problem.toCompactValue).timeless := by
  obtain ⟨code, title, status, detail, occurrence, timestamp, traceId, errors⟩ := problem
  cases occurrence <;> cases errors <;> rfl

theorem Problem.isWhole_undated (problem : Problem) :
    problem.toCompactValue.isWhole = (problem.undated.toCompactValue.isWhole &&
      (Text.isWhole problem.timestamp && Text.isWhole problem.traceId)) := by
  obtain ⟨code, title, status, detail, occurrence, timestamp, traceId, errors⟩ := problem
  have empty : Text.isWhole "" = true := by decide
  cases occurrence <;> cases errors <;>
  · simp only [Problem.undated, Problem.toCompactValue, Problem.fields, Value.record,
      List.filterMap_cons, List.filterMap_nil, Option.map_some, Option.map_none, List.map_cons,
      List.map_nil, Value.isWhole, Value.haveWholeTexts, empty, Bool.and_true]
    ac_rfl

namespace Api

open Http (Request Response)

/-! ### Requests under the interface -/

/-- The path of a request stands under the interface of the application. -/
def IsUnderApi (request : Request) : Prop := (pathParts request.path).head? = some "api"

theorem follow?_elsewhere {word first : String} {steps : List Step} {parts : List String}
    (differs : word ≠ first) (begins : parts.head? = some first) :
    follow? (.word word :: steps) parts = none := by
  obtain ⟨rest, rfl⟩ := List.head?_eq_some_iff.mp begins
  rw [follow?, if_neg (Ne.symm differs)]

/-- All that is offered to anybody stands elsewhere. -/
theorem Route.elsewhere : ∀ route ∈ Route.all, (∃ task, route.operation = .task task) ∨
    ∃ word steps, route.steps = .word word :: steps ∧ word ≠ "api" := by
  simp [Route.all, authRoute, apiRoute]

theorem routing_underApi {request : Request} {operation : Operation} {arguments : Arguments}
    (under : IsUnderApi request)
    (routed : routing request.method request.path = .found operation arguments) :
    ∃ task, operation = .task task := by
  obtain ⟨route, member, -, rfl, along⟩ := routing_found routed
  rcases Route.elsewhere route member with isTask | ⟨word, steps, same, differs⟩
  · exact isTask
  · rw [same, follow?_elsewhere differs under] at along
    cases along

/-! ### Strangers -/

/-- A request comes with no token that is taken and names a user by a number that users can have. -/
def IsStranger (env : Environment) (request : Request) : Prop :=
  ∀ token user, tokenOf? env request = some token →
    Token.user env.settings env.now token = .ok user → fitsColumn user = false

/-- Two surroundings are alike for whoever sends a request: the application is set up alike, and the
token that the request is sent with fares alike, as it does within a second, and at all times where
it is none or its signature is bad. -/
structure AreAlike (request : Request) (env other : Environment) : Prop where
  startup : other.startup = env.startup
  settings : other.settings = env.settings
  up : other.databaseIsUp = env.databaseIsUp
  token : ∀ token, tokenOf? env request = some token →
    Token.user env.settings other.now token = Token.user env.settings env.now token

theorem AreAlike.refl (request : Request) (env : Environment) : AreAlike request env env :=
  ⟨rfl, rfl, rfl, fun _ _ => rfl⟩

section
variable {env other : Environment} {request : Request}

theorem tokenOf?_alike (alike : AreAlike request env other) :
    tokenOf? other request = tokenOf? env request := by
  unfold tokenOf?
  rw [alike.startup]

theorem identify_alike (alike : AreAlike request env other) {token : String}
    (sent : tokenOf? env request = some token) : identify other token = identify env token := by
  unfold identify
  rw [alike.settings, alike.token token sent]

/-- No user is looked for by the token of a stranger. -/
theorem identify_stranger {token : String} (stranger : IsStranger env request)
    (sent : tokenOf? env request = some token) :
    ∃ halt, identify env token = .error halt ∨
      ∃ id, identify env token = .ok id ∧ ensureFits id = .error halt := by
  unfold identify
  cases taken : Token.user env.settings env.now token with
  | error cause => cases cause <;> exact ⟨_, .inl rfl⟩
  | ok user =>
    have oversized := stranger token user sent taken
    refine ⟨.failed .oversizedNumber, .inr ⟨user, rfl, ?_⟩⟩
    rw [ensureFits, oversized]
    rfl

/-- A stranger is turned away without a look at the users. -/
theorem authenticate_stranger (stranger : IsStranger env request) :
    ∃ halt, ∀ other, AreAlike request env other → ∀ db,
      authenticate other db request = .error halt := by
  unfold authenticate
  cases sent : tokenOf? env request with
  | none =>
    refine ⟨.refused .anonymous, fun other alike db => ?_⟩
    rw [tokenOf?_alike alike, sent]
    rfl
  | some token =>
    obtain ⟨halt, ended⟩ := identify_stranger stranger sent
    refine ⟨halt, fun other alike db => ?_⟩
    rw [tokenOf?_alike alike, sent]
    dsimp only
    rw [identify_alike alike sent]
    rcases ended with unnamed | ⟨id, named, oversized⟩
    · rw [unnamed]
      rfl
    · rw [named]
      show (ensureFits id >>= _) = _
      rw [oversized]
      rfl

theorem carryOut_stranger (stranger : IsStranger env request) (task : Task)
    (arguments : Arguments) :
    ∃ halt, ∀ other, AreAlike request env other → ∀ db,
      carryOut other db request task arguments = .error halt := by
  obtain ⟨unknown, turnedAway⟩ := authenticate_stranger stranger
  cases content : bodyFor task request with
  | error halt =>
    refine ⟨halt, fun other alike db => ?_⟩
    rw [carryOut_eq, content]
    rfl
  | ok body =>
    cases passed : ensure env.databaseIsUp with
    | error halt =>
      refine ⟨halt, fun other alike db => ?_⟩
      rw [carryOut_eq, content, alike.up, passed]
      rfl
    | ok _ =>
      refine ⟨unknown, fun other alike db => ?_⟩
      rw [carryOut_eq, content, alike.up, passed, turnedAway other alike db]
      rfl

/-- What becomes of a stranger's request is settled before the database is looked at. -/
theorem handle_stranger (under : IsUnderApi request) (stranger : IsStranger env request) :
    ∃ verdict, ∀ other, AreAlike request env other → ∀ db,
      handle other db request = answered db verdict := by
  unfold handle
  cases routed : routing request.method request.path with
  | found operation arguments =>
    obtain ⟨task, rfl⟩ := routing_underApi under routed
    obtain ⟨halt, ended⟩ := carryOut_stranger stranger task arguments
    refine ⟨.error halt, fun other alike db => ?_⟩
    dsimp only [operate]
    rw [ended other alike db]
    rfl
  | wrongMethod allowed => exact ⟨_, fun other alike db => rfl⟩
  | elsewhere path => exact ⟨_, fun other alike db => rfl⟩
  | unknown => exact ⟨_, fun other alike db => rfl⟩

/-! ### What a verdict is told as -/

/-- The response to a request that is answered without the database. -/
def responseTo (env : Environment) (request : Request) : Except Halt Response → Response
  | .ok response => handedOut env request response
  | .error (.refused refusal) => handedOut env request (refusalResponse env request refusal)
  | .error (.failed mishap) => failureResponse env request mishap

theorem respond_of_answered {db : Database} {verdict : Except Halt Response}
    (direct : Http.Cors.isInquiry request = false)
    (handled : handle env db request = answered db verdict) :
    respond env db request = ⟨sent request (responseTo env request verdict), db, []⟩ := by
  rw [respond_eq direct, handled]
  cases verdict with
  | ok response => rfl
  | error halt => cases halt <;> rfl

/-- Two responses say the same, but for when and under which identifier. -/
structure SaysSame (one other : Response) : Prop where
  status : other.status = one.status
  content : other.content.timeless = one.content.timeless

theorem SaysSame.sent {one second : Response} (same : SaysSame one second) :
    SaysSame (sent request one) (sent request second) := by
  unfold Api.sent
  split
  · exact ⟨same.status, rfl⟩
  · exact same

theorem saysSame_problem {one second : Problem} (same : second.undated = one.undated) :
    SaysSame (problemResponse one) (problemResponse second) where
  status := congrArg (fun problem => problem.status.toNat) same
  content := by
    show (Http.Content.json second.toCompactValue).timeless =
      (Http.Content.json one.toCompactValue).timeless
    rw [← Problem.timeless_undated, same, Problem.timeless_undated]

theorem saysSame_failure (alike : AreAlike request env other) (mishap : Mishap) :
    SaysSame (failureResponse env request mishap) (failureResponse other request mishap) := by
  refine saysSame_problem ?_
  rw [alike.settings]
  rfl

theorem saysSame_handedOut (alike : AreAlike request env other) {one second : Response}
    (sendable : second.isSendable = one.isSendable) (same : SaysSame one second) :
    SaysSame (handedOut env request one) (handedOut other request second) := by
  unfold handedOut
  rw [sendable]
  split
  · exact ⟨same.status, same.content⟩
  · exact saysSame_failure alike _

variable (request) in
/-- An identifier that the request brings is the same for both, and a fresh one can be sent. -/
theorem traceIdOf_whole (first : Text.isWhole env.freshId = true)
    (second : Text.isWhole other.freshId = true) :
    Text.isWhole (traceIdOf other request) = Text.isWhole (traceIdOf env request) := by
  unfold traceIdOf traceOf
  dsimp only
  cases request.filledHeader? "x-request-id" with
  | none => simp [first, second]
  | some id =>
    simp only [Option.getD_some]
    split
    · rw [first, second]
    · rfl

theorem saysSame_responseTo (alike : AreAlike request env other)
    (first : Text.isWhole env.freshId = true) (second : Text.isWhole other.freshId = true)
    (verdict : Except Halt Response) :
    SaysSame (responseTo env request verdict) (responseTo other request verdict) := by
  unfold responseTo
  cases verdict with
  | ok response => exact saysSame_handedOut alike rfl ⟨rfl, rfl⟩
  | error halt =>
    cases halt with
    | failed mishap => exact saysSame_failure alike mishap
    | refused refusal =>
      have same : SaysSame (refusalResponse env request refusal)
          (refusalResponse other request refusal) :=
        ⟨rfl, (saysSame_problem rfl).content⟩
      refine saysSame_handedOut alike ?_ same
      have trace := traceIdOf_whole request first second
      show Value.isWhole (Problem.toCompactValue _) = Value.isWhole (Problem.toCompactValue _)
      rw [Problem.isWhole_undated, Problem.isWhole_undated (refusal.problem env.now _ _)]
      show (_ && (Text.isWhole (Problem.timestampOf other.now) &&
        Text.isWhole (traceIdOf other request))) = (_ &&
          (Text.isWhole (Problem.timestampOf env.now) && Text.isWhole (traceIdOf env request)))
      rw [Problem.timestampOf_whole, Problem.timestampOf_whole, trace]
      rfl

end

/-- Under the interface of the application, whoever has no token that is taken changes nothing,
calls nobody, and gets the same response whatever the database holds. At another moment it says the
same, but for the time and the identifier that it carries. -/
theorem strangers_learn_nothing {env : Environment} {request : Request}
    (under : IsUnderApi request) (stranger : IsStranger env request) (db other : Database) :
    (respond env db request).database = db ∧ (respond env db request).calls = [] ∧
    (respond env db request).response = (respond env other request).response ∧
    ∀ later, AreAlike request env later → Text.isWhole env.freshId = true →
      Text.isWhole later.freshId = true →
      SaysSame (respond env db request).response (respond later other request).response := by
  cases direct : Http.Cors.isInquiry request with
  | true =>
    have inquiry (any : Environment) (held : Database) := @respond_inquiry any held request direct
    refine ⟨by rw [inquiry], by rw [inquiry], by rw [inquiry, inquiry], fun later alike _ _ => ?_⟩
    rw [inquiry, inquiry, alike.startup]
    exact SaysSame.sent ⟨rfl, rfl⟩
  | false =>
    obtain ⟨verdict, handled⟩ := handle_stranger under stranger
    have told (any : Environment) (alike : AreAlike request env any) (held : Database) :
        respond any held request = ⟨sent request (responseTo any request verdict), held, []⟩ :=
      respond_of_answered direct (handled any alike held)
    have here := told env (.refl request env)
    refine ⟨by rw [here], by rw [here], by rw [here, here],
      fun later alike first second => ?_⟩
    rw [here, told later alike]
    exact (saysSame_responseTo alike first second verdict).sent

/-! ### A forged token -/

/-- A token whose signature is bad is not taken at any time. -/
theorem Token.user_unsigned {settings : Settings} {token : String}
    (unsigned : (Token.signedClaims settings token).toOption = none) :
    ∃ refusal, ∀ now, Token.user settings now token = .error refusal := by
  unfold Token.user Token.verify
  cases taken : Token.signedClaims settings token with
  | error refusal => exact ⟨refusal, fun now => rfl⟩
  | ok claims =>
    rw [taken] at unsigned
    cases unsigned

namespace Sample

/-- The token of the user with another signature. -/
def forgedToken : String :=
  "eyJhbGciOiJIUzI1NiIsInR5cCI6IkpXVCJ9.eyJzdWIiOiIxIn0." ++
    "LgWQUsh8wUkbJkB8PSotXEqLGkI4xwABAKsSSqPLFaw"

def forgedRequest : Request where
  method := "GET"
  path := "/api/customers"
  headers := [("cookie", "session=" ++ forgedToken)]

/-- The same surroundings a day later. -/
def nextDay : Environment :=
  { environment with now := { environment.now with date := ⟨1, 1, 2, by decide⟩ }, freshId := "2" }

theorem tokenOf?_forgedRequest : tokenOf? environment forgedRequest = some forgedToken := by
  have kept : Http.Cookie.value? (some ("session=" ++ forgedToken)) "session" =
      some forgedToken := by
    decide +kernel
  unfold tokenOf?
  show (nonempty? (Http.Cookie.value? (some ("session=" ++ forgedToken)) "session")).or none = _
  rw [kept]
  rfl

theorem forgedToken_unsigned :
    (Token.signedClaims environment.settings forgedToken).toOption = none := by
  decide +kernel

end Sample

open Sample in
/-- Whoever forges a token learns nothing of the customer who is there. -/
theorem forger_learns_nothing :
    IsUnderApi forgedRequest ∧ IsStranger environment forgedRequest ∧
    AreAlike forgedRequest environment nextDay ∧ Text.isWhole environment.freshId = true ∧
    Text.isWhole nextDay.freshId = true ∧ start.customers.rows ≠ withLoyal.customers.rows ∧
    (respond environment start forgedRequest).database = start ∧
    (respond environment start forgedRequest).response =
      (respond environment withLoyal forgedRequest).response ∧
    SaysSame (respond environment start forgedRequest).response
      (respond nextDay withLoyal forgedRequest).response := by
  have under : IsUnderApi forgedRequest := by
    show (pathParts "/api/customers").head? = some "api"
    cbv
  obtain ⟨refusal, refused⟩ := Token.user_unsigned forgedToken_unsigned
  have stranger : IsStranger environment forgedRequest := by
    intro token user sent taken
    cases tokenOf?_forgedRequest.symm.trans sent
    cases (refused _).symm.trans taken
  have alike : AreAlike forgedRequest environment nextDay := by
    refine ⟨rfl, rfl, rfl, fun token sent => ?_⟩
    cases tokenOf?_forgedRequest.symm.trans sent
    exact (refused _).trans (refused _).symm
  have differ : start.customers.rows ≠ withLoyal.customers.rows := by
    intro same
    cases (congrArg List.length same : 0 = 1)
  have whole : Text.isWhole environment.freshId = true := by decide
  have fresh : Text.isWhole nextDay.freshId = true := by decide
  obtain ⟨unchanged, -, same, later⟩ := strangers_learn_nothing under stranger start withLoyal
  exact ⟨under, stranger, alike, whole, fresh, differ, unchanged, same,
    later nextDay alike whole fresh⟩

end Api

end Outreach
