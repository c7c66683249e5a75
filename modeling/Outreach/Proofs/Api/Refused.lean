import Outreach.Proofs.Api.Step

/-! Requests that are rejected. What was carried out is never answered by a status that blames the
request: such a status comes from a refusal, and a refusal leaves the database as it was, however
far the request had got. -/

namespace Outreach

/-- The status of a response blames the request. -/
def Http.Response.IsRejection (response : Http.Response) : Prop :=
  400 ≤ response.status ∧ response.status ≤ 499

theorem Http.Response.not_isRejection {response : Http.Response}
    (fine : response.status ≤ 399 ∨ 500 ≤ response.status) : ¬ response.IsRejection := by
  rintro ⟨low, high⟩
  omega

theorem Refusal.status_least (refusal : Refusal) : 400 ≤ refusal.status := by
  cases refusal <;> simp [status]

namespace Api

open Http (Request Response)

/-! ### The status of a response on its way out -/

section
variable {env : Environment} {request : Request}

@[simp] theorem sent_status (response : Response) :
    (sent request response).status = response.status := by
  unfold sent
  split <;> rfl

theorem handedOut_status {response : Response} (sendable : response.isSendable) :
    (handedOut env request response).status = response.status := by
  unfold handedOut
  rw [if_pos sendable]
  rfl

theorem handedOut_failed {response : Response} (unsendable : ¬ response.isSendable) :
    (handedOut env request response).status = 500 := by
  unfold handedOut
  rw [if_neg unsendable]
  rfl

/-- A refusal leaves as an error, whether its problem document can be sent or not. -/
theorem refusal_handedOut (refusal : Refusal) :
    400 ≤ (handedOut env request (refusalResponse env request refusal)).status := by
  by_cases sendable : (refusalResponse env request refusal).isSendable
  · rw [handedOut_status sendable]
    exact refusal.status_least
  · rw [handedOut_failed sendable]
    decide

/-- What comes to nothing is answered as an error, and leaves the database as it was. -/
theorem exchangeOf_halted (env : Environment) (db : Database) (request : Request) (halt : Halt) :
    400 ≤ (exchangeOf env db request (.error halt)).response.status ∧
      (exchangeOf env db request (.error halt)).database = db := by
  cases halt with
  | failed cause =>
    have status : (exchangeOf env db request (.error (.failed cause))).response.status = 500 :=
      sent_status _
    exact ⟨by omega, rfl⟩
  | refused refusal =>
    refine ⟨?_, rfl⟩
    show 400 ≤ (sent request (handedOut env request (refusalResponse env request refusal))).status
    rw [sent_status]
    exact refusal_handedOut refusal

/-- What cannot be shown or sent is a failure; anything else leaves with its own status. -/
theorem responseOf_status (effect : Effect Response) :
    (responseOf env request effect).status = 500 ∨
      ∃ response, effect.answer = some response ∧
        (responseOf env request effect).status = response.status := by
  unfold responseOf
  cases effect.answer with
  | none => exact .inl rfl
  | some response =>
    by_cases sendable : response.isSendable
    · exact .inr ⟨response, rfl, handedOut_status sendable⟩
    · exact .inl (handedOut_failed sendable)

end

/-! ### What was carried out -/

/-- A response to what was carried out: it tells something, has nothing to say, or sends the user
on. -/
inductive IsOwn : Response → Prop where
  | told {status : Nat} (value : Value) (fine : status ≤ 399 ∨ 500 ≤ status) :
      IsOwn (success status value)
  | done : IsOwn .noContent
  | onward {status : Nat} (address : String) (cookies : List Http.Cookie.Setting)
      (fine : status ≤ 399) : IsOwn (redirection status address cookies)

theorem IsOwn.not_isRejection {response : Response} (own : IsOwn response) :
    ¬ response.IsRejection := by
  cases own with
  | told value fine => exact Response.not_isRejection fine
  | done => exact Response.not_isRejection (.inl (show 204 ≤ 399 by decide))
  | onward address cookies fine => exact Response.not_isRejection (.inl fine)

/-- What is carried out is answered by a response of its own. -/
def AnswersOwn (outcome : Except Halt (Effect Response)) : Prop :=
  ∀ effect response, outcome = .ok effect → effect.answer = some response → IsOwn response

/-- What is carried out is not answered by a rejection. -/
def Approves (outcome : Except Halt (Effect Response)) : Prop :=
  ∀ effect response, outcome = .ok effect → effect.answer = some response → ¬ response.IsRejection

theorem AnswersOwn.approves {outcome : Except Halt (Effect Response)}
    (answers : AnswersOwn outcome) : Approves outcome :=
  fun effect response done shown => (answers effect response done shown).not_isRejection

theorem answersOwn_tell {α : Type} {status : Nat} {write : α → Value}
    {outcome : Except Halt (Effect α)} (fine : status ≤ 399) :
    AnswersOwn (tell status write outcome) := by
  intro effect response told shown
  obtain ⟨inner, -, rfl⟩ := map_eq_ok_iff.mp told
  obtain ⟨answer, -, rfl⟩ := Option.map_eq_some_iff.mp shown
  exact .told _ (.inl fine)

theorem answersOwn_tellDone {outcome : Except Halt (Effect Unit)} :
    AnswersOwn (tellDone outcome) := by
  intro effect response told shown
  obtain ⟨inner, -, rfl⟩ := map_eq_ok_iff.mp told
  obtain ⟨answer, -, rfl⟩ := Option.map_eq_some_iff.mp shown
  exact .done

section
variable {env : Environment} {db : Database} {request : Request}

theorem answersOwn_perform (user : User) (action : Action) :
    AnswersOwn (action.perform env db user) := by
  cases action with
  | deleteCustomer | deleteSegment | deleteCampaign => exact answersOwn_tellDone
  | _ => exact answersOwn_tell (by decide)

theorem approves_perform (user : User) (action : Action) :
    Approves (action.perform env db user) := (answersOwn_perform user action).approves

end

/-! ### All requests -/

/-- What an action comes to is answered by a rejection only where the action was refused, and then by
the status of the refusal. -/
theorem refused_of_rejection {env : Environment} {db : Database} {request : Request}
    {outcome : Except Halt (Effect Response)} (approves : Approves outcome)
    (rejected : (exchangeOf env db request outcome).response.IsRejection) :
    ∃ refusal, outcome = .error (.refused refusal) ∧
      (exchangeOf env db request outcome).response.status = refusal.status := by
  have failed (response : Response) (failure : response.status = 500) :
      ¬ (sent request response).IsRejection :=
    Response.not_isRejection (.inr (Nat.le_of_eq (failure.symm.trans (sent_status _).symm)))
  cases outcome with
  | ok effect =>
    exfalso
    rcases @responseOf_status env request effect with
      failure | ⟨response, shown, same⟩
    · exact failed _ failure rejected
    · have status : (exchangeOf env db request (.ok effect)).response.status = response.status :=
        (sent_status _).trans same
      exact approves effect response rfl shown ⟨status ▸ rejected.1, status ▸ rejected.2⟩
  | error halt =>
    cases halt with
    | failed cause => exact absurd rejected (failed _ rfl)
    | refused refusal =>
      refine ⟨refusal, rfl, ?_⟩
      by_cases sendable : (refusalResponse env request refusal).isSendable
      · exact (sent_status _).trans ((handedOut_status sendable).trans (Int.toNat_natCast _))
      · exact absurd rejected (failed _ (handedOut_failed sendable))

/-- An action that fails is answered by a failure. -/
theorem respond_broken {env : Environment} {db : Database} {request : Request} {user : User}
    {action : Action} {cause : Mishap} (carries : Carries env db request user action)
    (failed : action.perform env db user = .error (.failed cause)) :
    (respond env db request).response.status = 500 := by
  rw [respond_of_carries carries, failed]
  exact sent_status _

end Api

end Outreach
