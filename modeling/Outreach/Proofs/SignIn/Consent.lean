import Outreach.Proofs.Form.RoundTrip
import Outreach.Proofs.SignIn.Callback

/-! What the address of the consent screen carries. Its query is read again as the six parameters
that were put in, each once and as it was, whatever the state, the client and the server are called.
So no state can pass for another parameter, two states never share an address, and whoever begins a
sign-in is sent on with the very state that their cookie keeps. -/

namespace Outreach

namespace Http

/-! ### Addresses -/

/-- The query of an address: what follows its first question mark, up to a number sign. -/
def queryOf (address : String) : String :=
  String.ofList (Form.splitOnce '?' (address.toList.takeWhile (· ≠ '#'))).2

/-- The names and values that the query of an address carries, read as those of a request are; an
empty value is one, too. -/
def parametersOf (address : String) : List (String × String) :=
  (Form.decode (queryOf address).toList).map fun (name, value) =>
    (String.ofList name, String.ofList value)

variable {place query : String}

theorem queryOf_append (bare : ∀ c ∈ place.toList, c ≠ '?' ∧ c ≠ '#')
    (whole : '#' ∉ query.toList) : queryOf (place ++ "?" ++ query) = query := by
  have first : '?' ∉ place.toList := fun member => (bare _ member).1 rfl
  have letters : (place ++ "?" ++ query).toList = place.toList ++ '?' :: query.toList := by simp
  have kept : (place.toList ++ '?' :: query.toList).takeWhile (· ≠ '#') =
      place.toList ++ '?' :: query.toList := by
    refine List.takeWhile_eq_self_iff.mpr fun c member => ?_
    have apart : c ≠ '#' := by
      rintro rfl
      rcases List.mem_append.mp member with early | late
      · exact (bare _ early).2 rfl
      · rcases List.mem_cons.mp late with sign | late
        · exact absurd sign (by decide)
        · exact whole late
    simpa using apart
  rw [queryOf, letters, kept, Form.splitOnce_append first, String.ofList_toList]

/-- Characters that stand in an address as they are. -/
def Target.isKept (c : Char) : Bool :=
  isUnreserved c || ('%' :: '#' :: delimiters).contains c

theorem Target.isKept_of_isWritten {c : Char} (written : Form.isWritten c = true) :
    isKept c = true := by
  simp only [Form.isWritten, Bool.or_eq_true, beq_iff_eq] at written
  rcases written with (unreserved | rfl) | rfl
  · rw [isKept, unreserved, Bool.true_or]
  · decide
  · decide

/-- An address of such characters is sent as it is. -/
theorem Target.location_kept {address : String}
    (kept : ∀ c ∈ address.toList, isKept c = true) : location address = address := by
  have quoted : quote ('%' :: '#' :: delimiters) address.toList = address.toList := by
    calc quote ('%' :: '#' :: delimiters) address.toList
        = address.toList.flatMap fun c => [c] :=
          List.flatMap_congr fun c member => if_pos (kept c member)
      _ = address.toList := List.flatMap_singleton' _
  rw [location, quoted, String.ofList_toList]

end Http

namespace SignIn

/-! ### Queries -/

variable {place : String}

/-- Parameters whose values are texts. -/
def texts (fields : List (String × String)) : List (String × Value) :=
  fields.map fun (name, text) => (name, .text text)

theorem query_texts (fields : List (String × String)) : (query (texts fields)).toList =
    Form.encode (fields.map fun (name, text) => (name.toList, text.toList)) := by
  rw [query, texts, String.toList_ofList, List.map_map, Form.encode, List.map_map]
  rfl

theorem query_written (fields : List (String × String)) :
    ∀ c ∈ (query (texts fields)).toList, Form.isWritten c = true ∨ c = '=' ∨ c = '&' := by
  rw [query_texts]
  exact Form.encode_written _

/-- Texts in the query of an address are read again as they were. -/
theorem parametersOf_query (bare : ∀ c ∈ place.toList, c ≠ '?' ∧ c ≠ '#')
    (fields : List (String × String)) :
    Http.parametersOf (place ++ "?" ++ query (texts fields)) = fields := by
  have whole : '#' ∉ (query (texts fields)).toList := by
    intro member
    exact absurd (query_written fields '#' member) (by decide)
  have back : (fun (name, value) => (String.ofList name, String.ofList value)) ∘
      (fun (name, text) => (name.toList, text.toList)) = (id : String × String → String × String) :=
    funext fun _ => by simp
  rw [Http.parametersOf, Http.queryOf_append bare whole, query_texts, Form.decode_encode,
    List.map_map, back, List.map_id]

/-- A query of texts leaves nothing to be quoted in the address that it is part of. -/
theorem location_query (kept : ∀ c ∈ place.toList, Http.Target.isKept c = true)
    (fields : List (String × String)) :
    Http.Target.location (place ++ "?" ++ query (texts fields)) =
      place ++ "?" ++ query (texts fields) := by
  refine Http.Target.location_kept fun c member => ?_
  simp only [String.toList_append, List.mem_append] at member
  rcases member with (early | sign) | late
  · exact kept c early
  · rw [List.mem_singleton.mp sign]
    decide
  · rcases query_written fields c late with written | rfl | rfl
    · exact Http.Target.isKept_of_isWritten written
    · decide
    · decide

/-! ### The consent screen -/

section
variable {settings : Settings} {client : String}

theorem consentUrl_bare :
    ∀ c ∈ consentUrl.toList, Http.Target.isKept c = true ∧ c ≠ '?' ∧ c ≠ '#' := by
  have each : consentUrl.toList.all (fun c =>
      Http.Target.isKept c && c != '?' && c != '#') = true := by decide
  simpa [and_assoc] using each

/-- What the address of the consent screen carries. -/
def consentFields (settings : Settings) (client state : String) : List (String × String) := [
  ("client_id", client), ("redirect_uri", settings.redirectUrl), ("response_type", "code"),
  ("scope", scopes), ("state", state), ("prompt", "select_account")]

theorem authorizationUrl_eq (configured : settings.clientId = some client) (state : String) :
    authorizationUrl settings (.text state) =
      consentUrl ++ "?" ++ query (texts (consentFields settings client state)) := by
  have parameters : consentParameters settings (.text state) =
      texts (consentFields settings client state) := by
    rw [consentParameters, configured]
    rfl
  rw [authorizationUrl, parameters]

theorem parametersOf_authorizationUrl (configured : settings.clientId = some client)
    (state : String) : Http.parametersOf (authorizationUrl settings (.text state)) =
      consentFields settings client state := by
  rw [authorizationUrl_eq configured,
    parametersOf_query fun c member => (consentUrl_bare c member).2]

theorem location_authorizationUrl (configured : settings.clientId = some client)
    (state : String) : Http.Target.location (authorizationUrl settings (.text state)) =
      authorizationUrl settings (.text state) := by
  rw [authorizationUrl_eq configured,
    location_query fun c member => (consentUrl_bare c member).1]

end

/-- The address of the consent screen carries the six parameters, each once and with its value,
whatever signs the state, the client and the server are written with; and no two states share an
address. -/
theorem consent_parameters_carried (settings : Settings) {client : String}
    (configured : settings.clientId = some client) :
    (∀ state : String, Http.parametersOf (authorizationUrl settings (.text state)) = [
      ("client_id", client), ("redirect_uri", settings.serverUrl ++ "/auth/google/callback"),
      ("response_type", "code"), ("scope", "openid profile email"), ("state", state),
      ("prompt", "select_account")]) ∧
    Function.Injective fun state : String => authorizationUrl settings (.text state) := by
  refine ⟨parametersOf_authorizationUrl configured, fun state other same => ?_⟩
  have fields := congrArg Http.parametersOf same
  dsimp only at fields
  rw [parametersOf_authorizationUrl configured, parametersOf_authorizationUrl configured] at fields
  simpa [consentFields] using fields

namespace Sample

/-- A client and a server that are named like parameters. -/
def disguised : Settings where
  clientId := some "a&b=c%26"
  serverUrl := "https://höst.example/?x=1#y z"

/-- A state that is written like parameters of its own. -/
def disguisedState : String := "&client_id=evil#&state=%00+é😀"

end Sample

open Sample in
/-- What is written like parameters is carried as it is. -/
theorem disguised_state_carried :
    disguised.clientId = some "a&b=c%26" ∧
    Http.parametersOf (authorizationUrl disguised (.text disguisedState)) = [
      ("client_id", "a&b=c%26"),
      ("redirect_uri", "https://höst.example/?x=1#y z/auth/google/callback"),
      ("response_type", "code"), ("scope", "openid profile email"),
      ("state", "&client_id=evil#&state=%00+é😀"), ("prompt", "select_account")] ∧
    authorizationUrl disguised (.text disguisedState) ≠ authorizationUrl disguised (.text "") := by
  obtain ⟨carried, apart⟩ := consent_parameters_carried disguised rfl
  exact ⟨rfl, carried disguisedState, apart.ne (by decide)⟩

end SignIn

namespace Api

open Http (Response)
open SignIn

/-- Whoever begins a sign-in is sent to the consent screen with the state that their cookie keeps,
as long as the state needs no quotes. -/
theorem beginSignIn_state {env : Environment} {response : Response}
    (begun : beginSignIn env = .ok response)
    (plain : ∀ c ∈ env.freshState.toList, Http.Cookie.isPlain c = true) :
    ∃ address cookie, response.header "location" = [address] ∧
      response.header "set-cookie" = [cookie] ∧
      (Http.parametersOf address).lookup "state" = some env.freshState ∧
      Http.Cookie.ofHeader cookie = (stateCookie.toList, env.freshState.toList) := by
  unfold beginSignIn at begun
  split at begun
  case isTrue => cases begun
  case isFalse signsIn =>
    cases begun
    obtain ⟨client, filled⟩ : ∃ client, nonempty? env.settings.clientId = some client :=
      Option.ne_none_iff_exists'.mp (by simpa using signsIn)
    have configured := (nonempty?_eq_some_iff.mp filled).1
    refine ⟨_, _, location_redirection .., cookies_redirection .., ?_, ?_⟩
    · rw [location_authorizationUrl configured, parametersOf_authorizationUrl configured]
      rfl
    · have named : Http.Cookie.isName stateCookie = true := by decide
      exact Http.Cookie.ofHeader_setting named plain

end Api

end Outreach
