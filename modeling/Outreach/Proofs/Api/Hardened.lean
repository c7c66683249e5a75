import Outreach.Proofs.Api.Refused

/-! What responses carry beside what they tell: headers that harden browsers, and the identifiers by
which a request can be traced. Whatever comes of handling a request carries both. The answer to
an inquiry of a browser carries the identifiers only, and that to an unforeseen failure neither, and
its problem document names an identifier that no request has. -/

namespace Outreach.Api

open Http (Request Response Headers)

/-! ### Headers -/

/-- The values that headers have under a name. -/
def valuesUnder (name : String) (headers : Headers) : List String :=
  (headers.filter fun entry => entry.1 = name).map (·.2)

/-- All headers have one of the names. -/
def NamedAmong (names : List String) (headers : Headers) : Prop :=
  ∀ entry ∈ headers, entry.1 ∈ names

@[simp] theorem valuesUnder_append (name : String) (first second : Headers) :
    valuesUnder name (first ++ second) = valuesUnder name first ++ valuesUnder name second := by
  simp [valuesUnder]

theorem NamedAmong.valuesUnder {names : List String} {headers : Headers}
    (named : NamedAmong names headers) {name : String} (apart : name ∉ names) :
    Api.valuesUnder name headers = [] := by
  have none : headers.filter (fun entry => entry.1 = name) = [] := by
    refine List.filter_eq_nil_iff.mpr fun entry member same => apart ?_
    exact of_decide_eq_true same ▸ named entry member
  rw [Api.valuesUnder, none, List.map_nil]

/-- Where no two headers share a name, each has its value alone. -/
theorem valuesUnder_of_mem {headers : Headers} (apart : (headers.map Prod.fst).Nodup)
    {entry : String × String} (member : entry ∈ headers) :
    valuesUnder entry.1 headers = [entry.2] := by
  induction headers with
  | nil => cases member
  | cons first rest ih =>
    rw [List.map_cons, List.nodup_cons] at apart
    have split : valuesUnder entry.1 (first :: rest) =
        valuesUnder entry.1 [first] ++ valuesUnder entry.1 rest :=
      valuesUnder_append entry.1 [first] rest
    rcases List.mem_cons.mp member with rfl | later
    · have others : NamedAmong (rest.map Prod.fst) rest := fun _ => List.mem_map_of_mem
      rw [split, others.valuesUnder apart.1]
      simp [valuesUnder]
    · have other : first.1 ≠ entry.1 := fun same =>
        apart.1 (same ▸ List.mem_map_of_mem later)
      rw [split, ih apart.2 later]
      simp [valuesUnder, other]

@[simp] theorem header_withHeaders (headers : Headers) (response : Response) (name : String) :
    (response.withHeaders headers).header name =
      response.header name ++ valuesUnder name headers :=
  valuesUnder_append name response.headers headers

@[simp] theorem header_sent (request : Request) (response : Response) (name : String) :
    (sent request response).header name = response.header name := by
  unfold sent
  split <;> rfl

/-! ### Names -/

/-- The headers of a response before it leaves. -/
def bareNames : List String := ["content-type", "location", "set-cookie", "allow"]

/-- The headers by which other origins are let in. -/
def permissionNames : List String :=
  ["access-control-allow-credentials", "access-control-allow-origin", "vary"]

/-- The headers of an answer to an inquiry. -/
def inquiryNames : List String := ["vary", "access-control-allow-methods", "access-control-max-age",
  "access-control-allow-credentials", "access-control-allow-origin", "access-control-allow-headers",
  "content-type"]

def securityNames : List String := ["x-content-type-options", "x-frame-options", "x-xss-protection"]

def traceNames : List String := ["x-correlation-id", "x-request-id"]

/-- What is added on the way out has names of its own. -/
theorem added_apart : ∀ name ∈ securityNames ++ traceNames,
    name ∉ bareNames ∧ name ∉ permissionNames ∧ name ∉ inquiryNames := by
  decide

theorem permission_named (allowed : String) (request : Request) :
    NamedAmong permissionNames (Http.Cors.permission allowed request) := by
  unfold NamedAmong Http.Cors.permission
  split
  next => simp
  next => split <;> simp [permissionNames]

theorem inquiry_named (allowed : String) (request : Request) :
    NamedAmong inquiryNames (Http.Cors.answer allowed request).headers := by
  unfold NamedAmong Http.Cors.answer
  dsimp only
  cases request.header? "access-control-request-headers" <;> split <;> simp [inquiryNames]

abbrev IsBare (response : Response) : Prop := NamedAmong bareNames response.headers

theorem IsOwn.isBare {response : Response} (own : IsOwn response) : IsBare response := by
  cases own with
  | told value => simp [IsBare, NamedAmong, bareNames, success, Response.json]
  | done => simp [IsBare, NamedAmong, bareNames, Response.noContent]
  | onward address cookies =>
    simp [IsBare, NamedAmong, bareNames, redirection, Http.Cookie.Setting.header]

section
variable {env : Environment} {request : Request} {response : Response} {entry : String × String}

theorem refusalResponse_isBare (refusal : Refusal) :
    IsBare (refusalResponse env request refusal) := by
  simp only [IsBare, NamedAmong, bareNames, refusalResponse, problemResponse,
    Response.withHeaders]
  cases refusal <;> simp [refusalHeaders]

theorem failureResponse_isBare (mishap : Mishap) : IsBare (failureResponse env request mishap) := by
  simp [IsBare, NamedAmong, bareNames, failureResponse, problemResponse]

theorem added_nodup :
    ((securityHeaders ++ traceHeaders (traceOf env request)).map Prod.fst).Nodup := by
  show (securityNames ++ traceNames).Nodup
  decide

theorem added_named (member : entry ∈ securityHeaders ++ traceHeaders (traceOf env request)) :
    entry.1 ∈ securityNames ++ traceNames := List.mem_map_of_mem member

/-- Nothing that is added on the way out is there before. -/
theorem IsBare.header_added (bare : IsBare response)
    (member : entry ∈ securityHeaders ++ traceHeaders (traceOf env request)) :
    response.header entry.1 = [] :=
  bare.valuesUnder (added_apart _ (added_named member)).1

theorem IsBare.header_dressed (bare : IsBare response)
    (member : entry ∈ securityHeaders ++ traceHeaders (traceOf env request)) :
    (dressed env request response).header entry.1 = [entry.2] := by
  have apart := (added_apart _ (added_named member)).2.1
  have alone := valuesUnder_of_mem added_nodup member
  rw [valuesUnder_append] at alone
  rw [dressed, header_withHeaders, valuesUnder_append, valuesUnder_append,
    (permission_named _ _).valuesUnder apart, List.append_nil, alone, bare.header_added member,
    List.nil_append]

/-- What a response is dressed with. -/
theorem dressing_named :
    NamedAmong (securityNames ++ permissionNames ++ traceNames)
      (securityHeaders ++ Http.Cors.permission env.startup.clientUrl request ++
        traceHeaders (traceOf env request)) := by
  intro entry member
  simp only [List.mem_append] at member ⊢
  rcases member with (secure | permitted) | traced
  · exact .inl (.inl (List.mem_map_of_mem secure))
  · exact .inl (.inr (permission_named _ _ entry permitted))
  · exact .inr (List.mem_map_of_mem traced)

theorem kind_dressed (response : Response) :
    (dressed env request response).header "content-type" = response.header "content-type" := by
  rw [dressed, header_withHeaders, dressing_named.valuesUnder (by decide), List.append_nil]

end

/-! ### Problem documents -/

/-- The response is a problem document with these members. -/
structure IsProblem (response : Response) (members : List (Value × Value)) : Prop where
  kind : response.header "content-type" = [Response.problemKind]
  content : response.content = .json (.dict members)

theorem IsOwn.not_isProblem {response : Response} (own : IsOwn response)
    (members : List (Value × Value)) : ¬ IsProblem response members := by
  rintro ⟨kind, content⟩
  cases own with
  | told value => simp [Response.header, success, Response.json, Response.jsonKind,
      Response.problemKind] at kind
  | done => cases content
  | onward => cases content

/-- The status and the trace of a problem stand in its document. -/
theorem lookup_problem (problem : Problem) :
    ∃ members, problem.toCompactValue = .dict members ∧
      Value.lookup members "status" = some (.int problem.status) ∧
      Value.lookup members "trace_id" = some (.text problem.traceId) := by
  obtain ⟨code, title, status, detail, occurrence, timestamp, traceId, errors⟩ := problem
  cases occurrence <;> cases errors <;> exact ⟨_, rfl, rfl, rfl⟩

/-- Where a response comes from: from the answer to an inquiry of a browser, from the handling of
its request, or from a failure. -/
inductive Origin where
  | inquiry | handling | failure
deriving DecidableEq

/-- What leaves the application, by its origin. -/
inductive Leaves (env : Environment) (request : Request) : Origin → Response → Prop where
  | inquiry : Leaves env request .inquiry
      ((Http.Cors.answer env.startup.clientUrl request).withHeaders
        (traceHeaders (traceOf env request)))
  | own {response : Response} (own : IsOwn response) :
      Leaves env request .handling (dressed env request response)
  | refusal (refusal : Refusal) :
      Leaves env request .handling (dressed env request (refusalResponse env request refusal))
  | failure (mishap : Mishap) : Leaves env request .failure (failureResponse env request mishap)

section
variable {env : Environment} {request : Request} {origin : Origin} {response : Response}

/-- The identifiers of the request come with all but failures. -/
theorem Leaves.traced (leaves : Leaves env request origin response) {entry : String × String}
    (member : entry ∈ traceHeaders (traceOf env request)) :
    response.header entry.1 = if origin = .failure then [] else [entry.2] := by
  have added := List.mem_append_right securityHeaders member
  cases leaves with
  | inquiry =>
    have among : entry.1 ∈ traceNames := List.mem_map_of_mem member
    have apart := (added_apart _ (List.mem_append_right securityNames among)).2.2
    have unasked := (inquiry_named env.startup.clientUrl request).valuesUnder apart
    have nodup : ((traceHeaders (traceOf env request)).map Prod.fst).Nodup := by
      show traceNames.Nodup
      decide
    rw [header_withHeaders, valuesUnder_of_mem nodup member]
    exact congrArg (· ++ [entry.2]) unasked
  | own own => exact own.isBare.header_dressed added
  | refusal refusal => exact (refusalResponse_isBare refusal).header_dressed added
  | failure mishap => exact (failureResponse_isBare mishap).header_added added

/-- A problem document tells the status of its response. By its trace it names the request, unless
that is called unknown or failed. -/
theorem Leaves.problem (leaves : Leaves env request origin response)
    {members : List (Value × Value)} (problem : IsProblem response members) :
    Value.lookup members "status" = some (.int response.status) ∧
    Value.lookup members "trace_id" =
      some (.text (if origin = .failure then env.freshTrace else traceIdOf env request)) := by
  obtain ⟨kind, content⟩ := problem
  cases leaves with
  | inquiry => cases content
  | own own => exact absurd ⟨(kind_dressed _).symm.trans kind, content⟩ (own.not_isProblem members)
  | refusal refusal =>
    obtain ⟨held, document, status, trace⟩ := lookup_problem
      (refusal.problem env.now (traceIdOf env request) (Http.Target.shownPath request.path))
    cases (Http.Content.json.inj content).symm.trans document
    exact ⟨status, trace⟩
  | failure mishap =>
    obtain ⟨held, document, status, trace⟩ := lookup_problem
      (Problem.make env.now env.freshTrace .internalError 500 (failureDetail env.settings mishap)
        none (some (Http.Target.shownPath request.path)) none)
    cases (Http.Content.json.inj content).symm.trans document
    exact ⟨status, trace⟩

end

namespace Sample

/-- A request for an unknown path. -/
def lost (id : String) : Request where
  method := "GET"
  path := "/nowhere"
  headers := [("x-request-id", id)]

/-- The customers are asked for. -/
def listing : Request where
  method := "GET"
  path := "/api/customers"
  headers := [("x-request-id", "req-0")]

end Sample

end Outreach.Api
