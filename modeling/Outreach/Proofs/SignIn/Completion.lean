import Mathlib.Tactic.ByContra
import Mathlib.Tactic.Push
import Outreach.Proofs.Outcome
import Outreach.SignIn.Callback

/-! What a return from the consent screen leads to. The provider is asked only for a return that
brings no error, the state that was kept and a code; its replies open a profile, or fail as is
foreseen, or baffle; and only a profile that was opened touches the users. -/

namespace Outreach

namespace SignIn

/-! ### The return -/

/-- The states are texts that say something. -/
structure AreFilled (kept received : Option String) (first second : String) : Prop where
  kept : kept = some first ∧ first ≠ ""
  received : received = some second ∧ second ≠ ""

section
variable {kept received : Option String} {first second : String}

theorem verifyState?_filled (filled : AreFilled kept received first second) :
    verifyState? kept received =
      if isAscii first && isAscii second then some (decide (first = second)) else none := by
  obtain ⟨⟨rfl, here⟩, ⟨rfl, there⟩⟩ := filled
  have one : (Value.text first).isEmpty = false := by simpa [Value.isEmpty] using here
  have two : (Value.text second).isEmpty = false := by simpa [Value.isEmpty] using there
  show sameState? (.text first) (.text second) = _
  unfold sameState?
  rw [one, two]
  rfl

theorem verifyState?_unfilled (unfilled : ∀ first second, ¬ AreFilled kept received first second) :
    verifyState? kept received = some false := by
  have empty : (Value.ofOption .text kept).isEmpty || (Value.ofOption .text received).isEmpty := by
    by_contra both
    simp only [Bool.or_eq_true, not_or, Bool.not_eq_true] at both
    cases kept with
    | none => cases both.1
    | some first =>
      cases received with
      | none => cases both.2
      | some second =>
        refine unfilled first second ⟨⟨rfl, ?_⟩, ⟨rfl, ?_⟩⟩
        · rintro rfl
          cases both.1
        · rintro rfl
          cases both.2
  exact if_pos empty

/-- The state that came back is the one that was kept. -/
theorem verifyState?_eq_true_iff : verifyState? kept received = some true ↔
    ∃ state, AreFilled kept received state state ∧ isAscii state = true := by
  by_cases filled : ∃ first second, AreFilled kept received first second
  · obtain ⟨first, second, filled⟩ := filled
    rw [verifyState?_filled filled]
    constructor
    · intro same
      split at same
      next ascii =>
        obtain rfl : first = second := by simpa using same
        exact ⟨first, filled, by simpa using ascii⟩
      next => cases same
    · rintro ⟨state, again, ascii⟩
      cases filled.kept.1.symm.trans again.kept.1
      cases filled.received.1.symm.trans again.received.1
      simp [ascii]
  · push Not at filled
    rw [verifyState?_unfilled filled]
    exact iff_of_false (by simp) fun ⟨state, again, _⟩ => filled state state again

/-- Two states cannot be compared if both say something and one is not in ASCII. -/
theorem verifyState?_eq_none_iff : verifyState? kept received = none ↔
    ∃ first second, AreFilled kept received first second ∧
      ¬ (isAscii first = true ∧ isAscii second = true) := by
  by_cases filled : ∃ first second, AreFilled kept received first second
  · obtain ⟨first, second, filled⟩ := filled
    rw [verifyState?_filled filled]
    constructor
    · intro uncompared
      refine ⟨first, second, filled, fun both => ?_⟩
      rw [both.1, both.2] at uncompared
      cases uncompared
    · rintro ⟨one, other, again, foreign⟩
      cases filled.kept.1.symm.trans again.kept.1
      cases filled.received.1.symm.trans again.received.1
      exact if_neg (by simpa using foreign)
  · push Not at filled
    rw [verifyState?_unfilled filled]
    exact iff_of_false (by simp) fun ⟨first, second, again, _⟩ => filled first second again

end

/-- A return that brings no error, the state that was kept, and a code to ask with. -/
structure Asks (kept : Option String) (back : Return) (code : String) : Prop where
  untroubled : nonempty? back.error = none
  state : ∃ state, AreFilled kept back.state state state ∧ isAscii state = true
  code : back.code = some code ∧ code ≠ ""

/-- A return without an error, whose state cannot be compared with the one that was kept. -/
structure IsForeign (kept : Option String) (back : Return) : Prop where
  untroubled : nonempty? back.error = none
  states : ∃ first second, AreFilled kept back.state first second ∧
    ¬ (isAscii first = true ∧ isAscii second = true)

section
variable {kept : Option String} {back : Return} {code : String}

theorem precheck_eq_code_iff : precheck kept back = .ok (.ok code) ↔ Asks kept back code := by
  unfold precheck
  constructor
  · intro passed
    split at passed
    next => cases passed
    next untroubled =>
      split at passed
      next => cases passed
      next => cases passed
      next same =>
        split at passed
        next => cases passed
        next found =>
          cases passed
          exact ⟨by simpa using untroubled, verifyState?_eq_true_iff.mp same,
            nonempty?_eq_some_iff.mp found⟩
  · intro asks
    have same := verifyState?_eq_true_iff.mpr asks.state
    have found := nonempty?_eq_some_iff.mpr asks.code
    rw [asks.untroubled, same, found]
    rfl

theorem precheck_eq_error_iff {halt : Halt} : precheck kept back = .error halt ↔
    halt = .failed .foreignState ∧ IsForeign kept back := by
  unfold precheck
  constructor
  · intro failed
    split at failed
    next => cases failed
    next untroubled =>
      split at failed
      next foreign =>
        cases failed
        exact ⟨rfl, by simpa using untroubled, verifyState?_eq_none_iff.mp foreign⟩
      next => cases failed
      next => split at failed <;> cases failed
  · rintro ⟨rfl, untroubled, states⟩
    rw [untroubled, verifyState?_eq_none_iff.mpr states]
    rfl

end

/-- A return that asks for something has states that can be compared. -/
theorem Asks.not_foreign {kept : Option String} {back : Return} {code : String}
    (asks : Asks kept back code) : ¬ IsForeign kept back := by
  rintro ⟨-, first, second, filled, foreign⟩
  obtain ⟨state, again, ascii⟩ := asks.state
  cases filled.kept.1.symm.trans again.kept.1
  cases filled.received.1.symm.trans again.received.1
  exact foreign ⟨ascii, ascii⟩

/-! ### Replies -/

/-- The text of a body, without a byte order mark in front of it. -/
def unmarked (body : String) : List Char :=
  match body.toList with
  | '\ufeff' :: rest => rest
  | text => text

/-- The reply is a success with the value as JSON. -/
def Reply.Holds (reply : Reply) (value : Value) : Prop :=
  ∃ status body, reply = .answered status body ∧ isSuccess status = true ∧
    Json.read (unmarked body) = .ok value

/-- The reply is a success, but not one that is read as JSON. -/
def Reply.IsUnreadable (reply : Reply) : Prop :=
  ∃ status body failure, reply = .answered status body ∧ isSuccess status = true ∧
    Json.read (unmarked body) = .error failure

section
variable {failure fault : Fault} {reply : Reply} {value : Value}

theorem valueOf_answered (failure : Fault) {status : Int} (body : String)
    (success : isSuccess status = true) : valueOf failure (.answered status body) =
      match Json.read (unmarked body) with
      | .ok value => .ok value
      | .error .tooManyDigits => .error .tooManyDigits
      | .error .tooDeep => .error .tooDeep
      | .error (.invalid _) => .error .notJson := by
  unfold valueOf
  dsimp only
  rw [success]
  rfl

/-- What is no success is the failure that is foreseen. -/
theorem valueOf_unsuccessful (failure : Fault) {status : Int} (body : String)
    (unsuccessful : isSuccess status = false) :
    valueOf failure (.answered status body) = .error failure := by
  unfold valueOf
  dsimp only
  rw [unsuccessful]
  rfl

theorem valueOf_eq_ok_iff : valueOf failure reply = .ok value ↔ reply.Holds value := by
  constructor
  · intro found
    cases reply with
    | unreachable => cases found
    | answered status body =>
      by_cases success : isSuccess status = true
      · rw [valueOf_answered failure body success] at found
        split at found
        next read =>
          cases found
          exact ⟨status, body, rfl, success, read⟩
        next => cases found
        next => cases found
        next => cases found
      · rw [valueOf_unsuccessful failure body (by simpa using success)] at found
        cases found
  · rintro ⟨status, body, rfl, success, read⟩
    rw [valueOf_answered failure body success, read]

/-- A reply that holds no value is the foreseen failure, or is unexpectedly no JSON. -/
theorem valueOf_error (failed : valueOf failure reply = .error fault) :
    (fault = failure ∧ ¬ reply.IsUnreadable) ∨ (fault.message? = none ∧ reply.IsUnreadable) := by
  cases reply with
  | unreachable =>
    cases failed
    exact .inl ⟨rfl, by rintro ⟨_, _, _, ⟨⟩, _⟩⟩
  | answered status body =>
    by_cases success : isSuccess status = true
    · right
      rw [valueOf_answered failure body success] at failed
      cases read : Json.read (unmarked body) with
      | ok value =>
        rw [read] at failed
        cases failed
      | error cause =>
        refine ⟨?_, status, body, cause, rfl, success, read⟩
        rw [read] at failed
        cases cause <;> cases failed <;> rfl
    · left
      rw [valueOf_unsuccessful failure body (by simpa using success)] at failed
      cases failed
      refine ⟨rfl, ?_⟩
      rintro ⟨_, _, _, ⟨⟩, again, _⟩
      exact success again

theorem Reply.Holds.unique {other : Value} (holds : reply.Holds value)
    (again : reply.Holds other) : value = other := by
  have first : valueOf .notJson reply = .ok value := valueOf_eq_ok_iff.mpr holds
  have second : valueOf .notJson reply = .ok other := valueOf_eq_ok_iff.mpr again
  exact Except.ok.inj (first.symm.trans second)

theorem Reply.Holds.readable (holds : reply.Holds value) : ¬ reply.IsUnreadable := by
  rintro ⟨status, body, cause, rfl, -, read⟩
  obtain ⟨_, _, ⟨⟩, -, again⟩ := holds
  cases read.symm.trans again

end

/-- The provider answers with the access token, as a text that can be sent. -/
structure Provider.Grants (provider : Provider) (accessToken : Value) : Prop where
  held : ∃ entries, provider.token.Holds (.dict entries) ∧
    Value.lookup entries accessTokenKey = some accessToken
  sendable : isAscii accessToken.display = true

/-- The provider answers with an access token and then with a valid profile. -/
structure Provider.Opens (provider : Provider) (profile : SignInProfile) : Prop where
  granted : ∃ accessToken, provider.Grants accessToken
  told : ∃ value, provider.profile.Holds value ∧ SignInProfile.read value = .accepted profile

/-- The provider answers in a way that no failure is foreseen for. -/
inductive Provider.Baffles (provider : Provider) : Prop where
  /-- The first answer is no JSON. -/
  | tokens (unreadable : provider.token.IsUnreadable)
  /-- The first answer is no mapping: one that cannot be searched for the token, or one in which the
  token's name is found although nothing has a name in it. -/
  | search {value : Value} (held : provider.token.Holds value)
      (nameless : ∀ entries, value ≠ .dict entries) (searched : namesToken? value ≠ some false)
  /-- The access token has characters beyond ASCII. -/
  | accessToken {entries : List (Value × Value)} {accessToken : Value}
      (held : provider.token.Holds (.dict entries))
      (found : Value.lookup entries accessTokenKey = some accessToken)
      (foreign : isAscii accessToken.display = false)
  /-- The second answer is no JSON. -/
  | profile {accessToken : Value} (granted : provider.Grants accessToken)
      (unreadable : provider.profile.IsUnreadable)

section
variable {settings : Settings} {provider : Provider} {code : String} {profile : SignInProfile}

theorem profileOf_eq_ok_iff {reply : Reply} : profileOf reply = .ok profile ↔
    ∃ value, reply.Holds value ∧ SignInProfile.read value = .accepted profile := by
  unfold profileOf
  constructor
  · intro found
    obtain ⟨value, held, read⟩ := bind_eq_ok_iff.mp found
    split at read
    next accepted =>
      cases read
      exact ⟨value, valueOf_eq_ok_iff.mp held, accepted⟩
    next => cases read
  · rintro ⟨value, held, accepted⟩
    refine bind_eq_ok_iff.mpr ⟨value, valueOf_eq_ok_iff.mpr held, ?_⟩
    rw [accepted]

theorem profileOf_error {reply : Reply} {fault : Fault} (failed : profileOf reply = .error fault) :
    fault.message? = none ↔ reply.IsUnreadable := by
  unfold profileOf at failed
  rcases bind_eq_error_iff.mp failed with unheld | ⟨value, held, refused⟩
  · rcases valueOf_error unheld with ⟨rfl, readable⟩ | ⟨silent, unreadable⟩
    · exact iff_of_false (by simp [Fault.message?]) readable
    · exact iff_of_true silent unreadable
  · split at refused
    next => cases refused
    next =>
      cases refused
      exact iff_of_false (by simp [Fault.message?]) (valueOf_eq_ok_iff.mp held).readable

theorem exchangeCode_eq_ok_iff {reply : Reply} {tokens : Value} : exchangeCode reply = .ok tokens ↔
    reply.Holds tokens ∧ namesToken? tokens = some true := by
  unfold exchangeCode
  constructor
  · intro exchanged
    obtain ⟨value, held, searched⟩ := bind_eq_ok_iff.mp exchanged
    split at searched
    next named =>
      cases searched
      exact ⟨valueOf_eq_ok_iff.mp held, named⟩
    next => cases searched
    next => cases searched
  · rintro ⟨held, named⟩
    refine bind_eq_ok_iff.mpr ⟨tokens, valueOf_eq_ok_iff.mpr held, ?_⟩
    rw [named]

theorem exchangeCode_error {reply : Reply} {fault : Fault}
    (failed : exchangeCode reply = .error fault) : fault.message? = none ↔
      reply.IsUnreadable ∨ ∃ value, reply.Holds value ∧ namesToken? value = none := by
  unfold exchangeCode at failed
  rcases bind_eq_error_iff.mp failed with unheld | ⟨value, held, refused⟩
  · have valueless (value : Value) : ¬ reply.Holds value := fun holds => by
      cases unheld.symm.trans (valueOf_eq_ok_iff.mpr holds)
    rcases valueOf_error unheld with ⟨rfl, readable⟩ | ⟨silent, unreadable⟩
    · refine iff_of_false (by simp [Fault.message?]) ?_
      rintro (unreadable | ⟨value, holds, -⟩)
      · exact readable unreadable
      · exact valueless value holds
    · exact iff_of_true silent (.inl unreadable)
  · have holds := valueOf_eq_ok_iff.mp held
    split at refused
    next => cases refused
    next nameless =>
      cases refused
      refine iff_of_false (by simp [Fault.message?]) ?_
      rintro (unreadable | ⟨other, again, unsearchable⟩)
      · exact holds.readable unreadable
      · cases holds.unique again
        cases nameless.symm.trans unsearchable
    next unsearchable =>
      cases refused
      exact iff_of_true rfl (.inr ⟨value, holds, unsearchable⟩)

theorem namesToken?_dict {entries : List (Value × Value)} :
    namesToken? (.dict entries) = some true ↔
      ∃ accessToken, Value.lookup entries accessTokenKey = some accessToken := by
  simp [namesToken?, Option.isSome_iff_exists]

theorem fetchProfile_granted {accessToken : Value} (reply : Reply)
    (sendable : isAscii accessToken.display = true) :
    (fetchProfile accessToken reply).2 = profileOf reply := by
  have called : ∃ call, profileCall? accessToken = some call := ⟨_, if_pos sendable⟩
  obtain ⟨call, called⟩ := called
  unfold fetchProfile
  rw [called]

theorem fetchProfile_foreign {accessToken : Value} (reply : Reply)
    (foreign : isAscii accessToken.display = false) :
    (fetchProfile accessToken reply).2 = .error .unsendable := by
  have uncalled : profileCall? accessToken = none := if_neg (by simpa [isAscii] using foreign)
  unfold fetchProfile
  rw [uncalled]

variable (settings code) in
theorem inquire_mapping {entries : List (Value × Value)} {accessToken : Value}
    (held : provider.token.Holds (.dict entries))
    (found : Value.lookup entries accessTokenKey = some accessToken) :
    (inquire settings provider code).outcome = (fetchProfile accessToken provider.profile).2 := by
  have exchanged : exchangeCode provider.token = .ok (.dict entries) :=
    exchangeCode_eq_ok_iff.mpr ⟨held, namesToken?_dict.mpr ⟨accessToken, found⟩⟩
  unfold inquire
  rw [exchanged]
  dsimp only
  rw [found]

/-- A grant leads to what the second answer holds. -/
theorem inquire_granted {accessToken : Value} (granted : provider.Grants accessToken) :
    (inquire settings provider code).outcome = profileOf provider.profile := by
  obtain ⟨⟨entries, held, found⟩, sendable⟩ := granted
  rw [inquire_mapping settings code held found, fetchProfile_granted _ sendable]

theorem inquire_unexchanged {fault : Fault} (failed : exchangeCode provider.token = .error fault) :
    (inquire settings provider code).outcome = .error fault := by
  unfold inquire
  rw [failed]

theorem inquire_nameless {value : Value} (exchanged : exchangeCode provider.token = .ok value)
    (nameless : ∀ entries, value ≠ .dict entries) :
    (inquire settings provider code).outcome = .error .notSearchable := by
  unfold inquire
  rw [exchanged]
  cases value with
  | dict entries => exact absurd rfl (nameless entries)
  | _ => rfl

/-- An exchange that fails opens nothing, and its failure is unexpected if it baffles. -/
theorem unexchanged_closed {fault : Fault} (failed : exchangeCode provider.token = .error fault) :
    (∀ profile, ¬ provider.Opens profile) ∧ (fault.message? = none ↔ provider.Baffles) := by
  have ungranted {entries : List (Value × Value)} {accessToken : Value}
      (held : provider.token.Holds (.dict entries))
      (found : Value.lookup entries accessTokenKey = some accessToken) : False := by
    cases failed.symm.trans
      (exchangeCode_eq_ok_iff.mpr ⟨held, namesToken?_dict.mpr ⟨accessToken, found⟩⟩)
  constructor
  · rintro profile ⟨⟨accessToken, ⟨entries, held, found⟩, -⟩, -⟩
    exact ungranted held found
  rw [exchangeCode_error failed]
  constructor
  · rintro (unreadable | ⟨value, held, unsearchable⟩)
    · exact .tokens unreadable
    · refine .search held ?_ (by simp [unsearchable])
      rintro entries rfl
      simp [namesToken?] at unsearchable
  · rintro (unreadable | ⟨held, nameless, searched⟩ | ⟨held, found, -⟩ |
      ⟨⟨⟨entries, held, found⟩, -⟩, -⟩)
    · exact .inl unreadable
    · refine .inr ⟨_, held, ?_⟩
      cases named : namesToken? _ with
      | none => rfl
      | some found =>
        cases found with
        | false => exact absurd named searched
        | true => cases failed.symm.trans (exchangeCode_eq_ok_iff.mpr ⟨held, named⟩)
    · exact (ungranted held found).elim
    · exact (ungranted held found).elim

/-- Nothing can be looked up in what is no mapping, even if the name of the token is found in it. -/
theorem nameless_closed {tokens : Value} (exchanged : exchangeCode provider.token = .ok tokens)
    (nameless : ∀ entries, tokens ≠ .dict entries) :
    (∀ profile, ¬ provider.Opens profile) ∧ provider.Baffles := by
  obtain ⟨holds, named⟩ := exchangeCode_eq_ok_iff.mp exchanged
  constructor
  · rintro profile ⟨⟨accessToken, ⟨entries, held, -⟩, -⟩, -⟩
    exact nameless entries (holds.unique held)
  · exact .search holds nameless (by simp [named])

section
variable {entries : List (Value × Value)} {accessToken : Value}

theorem foreign_closed (holds : provider.token.Holds (.dict entries))
    (found : Value.lookup entries accessTokenKey = some accessToken)
    (foreign : isAscii accessToken.display = false) (profile : SignInProfile) :
    ¬ provider.Opens profile := by
  rintro ⟨⟨other, ⟨others, held, again⟩, ascii⟩, -⟩
  cases holds.unique held
  cases found.symm.trans again
  cases foreign.symm.trans ascii

/-- Once a token is granted, only the second answer can baffle. -/
theorem Provider.Grants.baffles_iff (granted : provider.Grants accessToken) :
    provider.Baffles ↔ provider.profile.IsUnreadable := by
  refine ⟨?_, fun unreadable => .profile granted unreadable⟩
  obtain ⟨⟨entries, holds, found⟩, sendable⟩ := granted
  rintro (unreadable | ⟨held, nameless, -⟩ | ⟨held, again, foreign⟩ | ⟨-, unreadable⟩)
  · exact absurd unreadable holds.readable
  · exact absurd (held.unique holds) (nameless entries)
  · cases holds.unique held
    cases found.symm.trans again
    cases sendable.symm.trans foreign
  · exact unreadable

end

variable (settings provider code) in
/-- What the two replies come to: a profile, if there is one in them; else a failure, which is
unexpected if the replies baffle. -/
theorem inquire_cases :
    (∃ profile, (inquire settings provider code).outcome = .ok profile ∧ provider.Opens profile ∧
      ¬ provider.Baffles) ∨
    ∃ fault, (inquire settings provider code).outcome = .error fault ∧
      (∀ profile, ¬ provider.Opens profile) ∧ (fault.message? = none ↔ provider.Baffles) := by
  cases exchanged : exchangeCode provider.token with
  | error fault =>
    exact .inr ⟨fault, inquire_unexchanged exchanged, unexchanged_closed exchanged⟩
  | ok tokens =>
    by_cases mapping : ∃ entries, tokens = .dict entries
    case neg =>
      push Not at mapping
      obtain ⟨closed, baffles⟩ := nameless_closed exchanged mapping
      exact .inr ⟨_, inquire_nameless exchanged mapping, closed, iff_of_true rfl baffles⟩
    obtain ⟨entries, rfl⟩ := mapping
    obtain ⟨holds, named⟩ := exchangeCode_eq_ok_iff.mp exchanged
    obtain ⟨accessToken, found⟩ := namesToken?_dict.mp named
    have fetched := inquire_mapping settings code holds found
    cases sendable : isAscii accessToken.display with
    | false =>
      rw [fetchProfile_foreign _ sendable] at fetched
      exact .inr ⟨.unsendable, fetched, foreign_closed holds found sendable,
        iff_of_true rfl (.accessToken holds found sendable)⟩
    | true =>
      have granted : provider.Grants accessToken := ⟨⟨entries, holds, found⟩, sendable⟩
      rw [fetchProfile_granted _ sendable] at fetched
      rw [granted.baffles_iff, fetched]
      cases told : profileOf provider.profile with
      | ok profile =>
        obtain ⟨value, held, accepted⟩ := profileOf_eq_ok_iff.mp told
        exact .inl ⟨profile, rfl, ⟨⟨_, granted⟩, value, held, accepted⟩, held.readable⟩
      | error fault =>
        refine .inr ⟨fault, rfl, ?_, profileOf_error told⟩
        rintro profile ⟨-, held⟩
        cases told.symm.trans (profileOf_eq_ok_iff.mpr held)

theorem Provider.Opens.not_baffles (opens : provider.Opens profile) : ¬ provider.Baffles := by
  rcases inquire_cases default provider "" with ⟨_, -, -, calm⟩ | ⟨_, -, closed, -⟩
  · exact calm
  · exact absurd opens (closed profile)

theorem Provider.Opens.inquire (opens : provider.Opens profile) (settings : Settings)
    (code : String) : (SignIn.inquire settings provider code).outcome = .ok profile := by
  obtain ⟨⟨accessToken, granted⟩, held⟩ := opens
  rw [inquire_granted granted, profileOf_eq_ok_iff.mpr held]

theorem Provider.Opens.unique {other : SignInProfile} (opens : provider.Opens profile)
    (again : provider.Opens other) : profile = other :=
  Except.ok.inj ((opens.inquire default "").symm.trans (again.inquire default ""))

end

/-! ### Completion -/

section
variable {settings : Settings} {provider : Provider} {db : Database} {now : Moment}
  {kept : Option String} {back : Return} {code : String} {profile : SignInProfile}

variable (settings provider db now) in
/-- Nothing is asked of the provider unless the return asks for it: the sign-in is rejected, or its
states cannot be compared. -/
theorem complete_unasked (unasked : ∀ code, ¬ Asks kept back code) :
    ∃ outcome, complete settings provider db now kept back = ([], outcome) ∧
      ((IsForeign kept back ∧ outcome = .error (.failed .foreignState)) ∨
        (¬ IsForeign kept back ∧
          ∃ rejection, outcome = .ok ⟨db, some (.rejected rejection)⟩)) := by
  unfold complete
  cases passed : precheck kept back with
  | error halt =>
    obtain ⟨rfl, foreign⟩ := precheck_eq_error_iff.mp passed
    exact ⟨_, rfl, .inl ⟨foreign, rfl⟩⟩
  | ok checked =>
    cases checked with
    | error rejection =>
      refine ⟨_, rfl, .inr ⟨fun foreign => ?_, rejection, rfl⟩⟩
      cases passed.symm.trans (precheck_eq_error_iff.mpr ⟨rfl, foreign⟩)
    | ok code => exact absurd (precheck_eq_code_iff.mp passed) (unasked code)

/-- A profile that is opened is that of the user for whom a session begins. -/
theorem complete_opened (asks : Asks kept back code) (opens : provider.Opens profile) :
    (complete settings provider db now kept back).2 = begin settings db now profile := by
  unfold complete
  rw [precheck_eq_code_iff.mpr asks]
  dsimp only
  rw [opens.inquire]

variable (settings db now) in
/-- Where no profile is opened, the sign-in is rejected, or fails if the replies baffle. -/
theorem complete_unopened (asks : Asks kept back code)
    (closed : ∀ profile, ¬ provider.Opens profile) :
    (provider.Baffles ∧
      (complete settings provider db now kept back).2 = .error (.failed .unforeseen)) ∨
    (¬ provider.Baffles ∧ (complete settings provider db now kept back).2 =
      .ok ⟨db, some (.rejected .exchangeFailed)⟩) := by
  rcases inquire_cases settings provider code with
    ⟨profile, -, opens, -⟩ | ⟨fault, failed, -, silent⟩
  · exact absurd opens (closed profile)
  unfold complete
  rw [precheck_eq_code_iff.mpr asks]
  dsimp only
  rw [failed]
  dsimp only
  cases said : fault.message? with
  | none => exact .inl ⟨silent.mp said, rfl⟩
  | some message =>
    refine .inr ⟨fun baffles => ?_, rfl⟩
    cases said.symm.trans (silent.mpr baffles)

variable (settings db now) in
/-- Unless a return asks and the provider opens a profile, nobody is stored: the sign-in fails or is
rejected. -/
theorem complete_closed (closed : ∀ code profile, Asks kept back code → ¬ provider.Opens profile) :
    (∃ cause, (complete settings provider db now kept back).2 = .error (.failed cause)) ∨
    ∃ rejection, (complete settings provider db now kept back).2 =
      .ok ⟨db, some (.rejected rejection)⟩ := by
  by_cases asked : ∃ code, Asks kept back code
  · obtain ⟨code, asks⟩ := asked
    exact (complete_unopened settings db now asks fun profile => closed code profile asks).imp
      (fun ⟨_, failed⟩ => ⟨_, failed⟩) fun ⟨_, rejected⟩ => ⟨_, rejected⟩
  · push Not at asked
    obtain ⟨outcome, completed, ended⟩ := complete_unasked settings provider db now asked
    rw [completed]
    exact ended.imp (fun ⟨_, failed⟩ => ⟨_, failed⟩) fun ⟨_, rejected⟩ => rejected

end

end SignIn

end Outreach
