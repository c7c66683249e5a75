import Outreach.Proofs.Calendar.Epoch
import Outreach.Proofs.Http.Cookie
import Outreach.Proofs.Json.Document
import Outreach.Proofs.Problem.Told
import Outreach.Proofs.Text.Base64
import Outreach.Session.Token

/-! Tokens that are taken for what they were issued for, under the secret and the way to sign with
which they were issued. Claims as JSON has them can be issued up to a depth and a length of numbers,
and are read from the token as they were. Where only the subject among them has a meaning for
tokens, the expiry alone is checked. Whether the token of a session can be issued is up to the
configuration. -/

namespace Outreach

namespace Token

/-! ### Issuing -/

/-- The configuration is one with which session tokens can be made. -/
structure CanIssue (settings : Settings) (now : Moment) : Prop where
  expires : ∃ second, expiry? settings now none = some second
  algorithm : ∃ algorithm, Algorithm.ofName? settings.algorithm = some algorithm
  secret : isPublicKey settings.secretKey = false

theorem expiry_short {settings : Settings} {now : Moment} {lifetime : Option Int} {second : Int}
    (expires : expiry? settings now lifetime = some second) :
    (Text.digits second.natAbs).length ≤ Json.maxDigits := by
  obtain ⟨m, -, rfl⟩ := Option.map_eq_some_iff.mp expires
  exact Nat.le_trans (Text.length_digits_le m.epochSeconds_bounded (by decide)) (by decide)

/-- The second in which the time is up for which a token is good. -/
def lastSecond (settings : Settings) (now : Moment) (lifetime : Option Int) : Int :=
  (now.sinceEpoch + lifetimeOf settings lifetime) / microsecondsPerSecond

/-- Without a lifetime of its own a token is good for whole seconds after the one in which it was
issued. -/
theorem lastSecond_none (settings : Settings) (now : Moment) :
    lastSecond settings now none = now.epochSeconds + defaultLifetime settings :=
  Int.add_mul_ediv_right _ _ (by decide)

theorem expiry?_eq {settings : Settings} {now : Moment} {lifetime : Option Int} {second : Int}
    (expires : expiry? settings now lifetime = some second) :
    second = lastSecond settings now lifetime := by
  obtain ⟨m, found, rfl⟩ := Option.map_eq_some_iff.mp expires
  unfold Moment.epochSeconds
  rw [Moment.sinceEpoch_of_ofEpoch? found]
  rfl

/-- A part of a token is the text of its value in other letters. -/
theorem part_eq_ok_iff {value : Value} {letters : List Char} :
    part value = .ok letters ↔ value.depth ≤ Json.maxDepth ∧ ∃ text,
      Json.write? value = some text ∧
      letters = Text.Base64.encode (Text.Utf8.encode text) := by
  unfold part
  by_cases deep : Json.maxDepth < value.depth
  · simp [deep, Nat.not_le.mpr deep]
  · rw [if_neg deep]
    cases Json.write? value <;> simp [Nat.not_lt.mp deep, eq_comm]

theorem part_header (algorithm : String) : ∃ text, Json.write? (header algorithm) = some text ∧
    part (header algorithm) = .ok (Text.Base64.encode (Text.Utf8.encode text)) := by
  have shallow : (header algorithm).depth ≤ Json.maxDepth := by
    simp [header, Value.record, Value.depth, Value.entryDepth, Json.maxDepth]
  exact ⟨_, rfl, part_eq_ok_iff.mpr ⟨shallow, _, rfl, rfl⟩⟩

section
variable {settings : Settings} {now : Moment}

theorem signature?_eq_some_iff {content : List Char} {signature : List UInt8} :
    signature? settings content = some signature ↔ ∃ algorithm,
      Algorithm.ofName? settings.algorithm = some algorithm ∧
      isPublicKey settings.secretKey = false ∧
      signature = Digest.keyed algorithm.method (Text.Utf8.encode settings.secretKey.toList)
        (Text.Utf8.encode content) := by
  unfold signature?
  cases found : Algorithm.ofName? settings.algorithm with
  | none => simp
  | some algorithm =>
    cases secret : isPublicKey settings.secretKey with
    | true => simp
    | false => simp [eq_comm]

/-- What is signed. -/
def content (head body : List Char) : List Char :=
  Text.Base64.encode (Text.Utf8.encode head) ++
    separator :: Text.Base64.encode (Text.Utf8.encode body)

/-- A token is made of its parts, if each of them can be. -/
theorem encode_eq_ok_iff {claims : Claims} {token : List Char} :
    encode settings claims = .ok token ↔ ∃ head body signature,
      Json.write? (header settings.algorithm) = some head ∧
      (Value.dict claims).depth ≤ Json.maxDepth ∧ Json.write? (.dict claims) = some body ∧
      signature? settings (content head body) = some signature ∧
      token = content head body ++ separator :: Text.Base64.encode signature := by
  constructor
  · intro made
    unfold encode at made
    dsimp only at made
    split at made
    next => cases made
    obtain ⟨first, headed, made⟩ := bind_eq_ok_iff.mp made
    obtain ⟨second, bodied, made⟩ := bind_eq_ok_iff.mp made
    obtain ⟨-, head, headText, rfl⟩ := part_eq_ok_iff.mp headed
    obtain ⟨shallow, body, bodyText, rfl⟩ := part_eq_ok_iff.mp bodied
    split at made
    next signature signed =>
      exact ⟨head, body, signature, headText, shallow, bodyText, signed,
        (Except.ok.inj made).symm⟩
    next => cases made
  · rintro ⟨head, body, signature, headText, shallow, bodyText, signed, rfl⟩
    obtain ⟨algorithm, known, -, -⟩ := signature?_eq_some_iff.mp signed
    obtain ⟨_, again, headed⟩ := part_header settings.algorithm
    cases headText.symm.trans again
    have bodied := part_eq_ok_iff.mpr ⟨shallow, body, bodyText, rfl⟩
    unfold content at signed
    unfold encode
    rw [known, headed, bodied]
    dsimp only [bind, Except.bind, pure, Except.pure, Option.isNone]
    rw [signed]
    rfl

/-- Some token is made for claims exactly if they can be written and signed. -/
theorem exists_encode_iff {claims : Claims} :
    (∃ token, encode settings claims = .ok token) ↔
      (∃ algorithm, Algorithm.ofName? settings.algorithm = some algorithm) ∧
      isPublicKey settings.secretKey = false ∧ (Value.dict claims).depth ≤ Json.maxDepth ∧
      ∃ body, Json.write? (.dict claims) = some body := by
  constructor
  · rintro ⟨token, made⟩
    obtain ⟨_, body, _, -, shallow, written, signed, -⟩ := encode_eq_ok_iff.mp made
    obtain ⟨algorithm, known, secret, -⟩ := signature?_eq_some_iff.mp signed
    exact ⟨⟨algorithm, known⟩, secret, shallow, body, written⟩
  · rintro ⟨⟨algorithm, known⟩, secret, shallow, body, written⟩
    obtain ⟨head, headed, -⟩ := part_header settings.algorithm
    exact ⟨_, encode_eq_ok_iff.mpr ⟨head, body, _, headed, shallow, written,
      signature?_eq_some_iff.mpr ⟨algorithm, known, secret, rfl⟩, rfl⟩⟩

/-- A token holds the second in which it expires. -/
theorem issue_eq_ok_iff {lifetime : Option Int} {claims : Claims} {token : String} :
    issue settings now lifetime claims = .ok token ↔ ∃ second letters,
      expiry? settings now lifetime = some second ∧
      encode settings (inSeconds (withClaim "exp" (.int second) claims)) = .ok letters ∧
      token = String.ofList letters := by
  unfold issue
  cases expires : expiry? settings now lifetime with
  | none => simp
  | some second =>
    rw [map_eq_ok_iff]
    simp [eq_comm]

/-- The claims of a session, with the second in which it expires. -/
def signedSession (expiry user : Int) (email : String) : Claims :=
  sessionClaims user email ++ [(.text "exp", .int expiry)]

theorem issueSession_encode {user : Int} {email token : String}
    (issued : issueSession settings now user email = .ok token) :
    ∃ expiry letters, expiry? settings now none = some expiry ∧
      encode settings (signedSession expiry user email) = .ok letters ∧
      token = String.ofList letters := issue_eq_ok_iff.mp issued

theorem depth_signedSession (expiry user : Int) (email : String) :
    (Value.dict (signedSession expiry user email)).depth ≤ Json.maxDepth := by
  simp [signedSession, sessionClaims, Value.depth, Value.entryDepth, Json.maxDepth]

theorem write?_signedSession {expiry : Int}
    (short : (Text.digits expiry.natAbs).length ≤ Json.maxDigits) (user : Int) (email : String) :
    ∃ body, Json.write? (.dict (signedSession expiry user email)) = some body := by
  have written := Json.write?_int short
  simp [signedSession, sessionClaims, Json.write?, Json.writeEntries?, Json.keyText?,
    Value.asText?] at written ⊢
  simp [written]

/-- Whether a session token can be made does not depend on the user. -/
theorem issueSession_eq_ok_iff (user : Int) (email : String) :
    (∃ token, issueSession settings now user email = .ok token) ↔ CanIssue settings now := by
  constructor
  · rintro ⟨token, issued⟩
    obtain ⟨second, letters, expires, encoded, -⟩ := issueSession_encode issued
    obtain ⟨algorithm, secret, -⟩ := exists_encode_iff.mp ⟨letters, encoded⟩
    exact ⟨⟨second, expires⟩, algorithm, secret⟩
  · rintro ⟨⟨second, expires⟩, algorithm, secret⟩
    obtain ⟨letters, encoded⟩ := exists_encode_iff.mpr ⟨algorithm, secret,
      depth_signedSession second user email,
      write?_signedSession (expiry_short expires) user email⟩
    exact ⟨_, issue_eq_ok_iff.mpr ⟨second, letters, expires, encoded, rfl⟩⟩

end

/-! ### Parts -/

theorem splitLast?_append {sign : Char} {before after : List Char} (last : sign ∉ after) :
    splitLast? sign (before ++ sign :: after) = some (before, after) := by
  have found : (before ++ sign :: after).contains sign = true := by simp
  have taken : (before ++ sign :: after).reverse.takeWhile (· ≠ sign) = after.reverse := by
    have reversed : (before ++ sign :: after).reverse =
        after.reverse ++ sign :: before.reverse := by
      simp
    rw [reversed]
    exact congrArg Prod.fst (Form.splitOnce_append (by simpa using last))
  have length : (before ++ sign :: after).length - after.length - 1 = before.length := by
    rw [List.length_append, List.length_cons]
    omega
  unfold splitLast?
  rw [if_pos found, taken, List.reverse_reverse]
  dsimp only
  rw [length, List.take_left]

theorem separator_notMem_encode (bytes : List UInt8) : separator ∉ Text.Base64.encode bytes := by
  have apart : ∀ n < 64, Text.Base64.digit n ≠ separator := by decide
  intro member
  obtain ⟨n, small, same⟩ := Text.Base64.mem_encode member
  exact apart n small same.symm

theorem decodePart?_encode (bytes : List UInt8) :
    decodePart? (Text.Base64.encode bytes) = some bytes := Text.Base64.decode?_encode bytes

theorem mapping_encode {text : List Char} {entries : Claims}
    (read : Json.read text = .ok (.dict entries)) :
    mapping (Text.Utf8.encode text) = .ok entries := by
  unfold mapping
  rw [Text.fromUTF8?_encode]
  dsimp only [bind, Except.bind, orInvalid]
  rw [String.toList_ofList, read]

/-! ### Signed claims -/

section
variable {settings other : Settings}

theorem Algorithm.name_of_ofName? {name : String} {algorithm : Algorithm}
    (found : ofName? name = some algorithm) : algorithm.name = name := by
  simpa using List.find?_some found

/-- A header tells how the token is signed. -/
theorem header_read (algorithm : Algorithm) : ∃ text entries,
    Json.write? (header algorithm.name) = some text ∧ Json.read text = .ok (.dict entries) ∧
      (Value.lookup entries "alg").bind Value.asText? = some algorithm.name := by
  have whole : Text.isWhole algorithm.name = true := by cases algorithm <;> decide
  obtain ⟨text, written, read⟩ := Json.read_written ([
    .ofText "alg" algorithm.name (by decide) whole,
    .ofText "typ" "JWT" (by decide) (by decide)] : List (Json.Told 0)) (by decide)
    (by simp [Json.Told.ofText])
  exact ⟨text, _, written, read, rfl⟩

/-- The parts of a token. -/
theorem encode_parts {claims : Claims} {token : List Char}
    (issued : encode settings claims = .ok token) : ∃ algorithm head body signature,
      Algorithm.ofName? settings.algorithm = some algorithm ∧
      Json.write? (header settings.algorithm) = some head ∧
      Json.write? (.dict claims) = some body ∧
      signature? settings (content head body) = some signature ∧
      token = content head body ++ separator :: Text.Base64.encode signature := by
  obtain ⟨head, body, signature, headed, -, written, signed, made⟩ := encode_eq_ok_iff.mp issued
  obtain ⟨algorithm, known, -, -⟩ := signature?_eq_some_iff.mp signed
  exact ⟨algorithm, head, body, signature, known, headed, written, signed, made⟩

/-- What the claims of a token come to for everyone who has the secret and signs in the same way is
what their text is read as. -/
theorem signedClaims_eq {claims : Claims} {token : List Char}
    (secret : other.secretKey = settings.secretKey)
    (algorithm : other.algorithm = settings.algorithm)
    (issued : encode settings claims = .ok token) : ∃ body,
      Json.write? (.dict claims) = some body ∧
      signedClaims other (String.ofList token) = mapping (Text.Utf8.encode body) := by
  obtain ⟨way, head, body, signature, known, headed, written, signed, rfl⟩ := encode_parts issued
  refine ⟨body, written, ?_⟩
  obtain ⟨text, entries, again, opened, named⟩ := header_read way
  rw [Algorithm.name_of_ofName? known] at again named
  cases headed.symm.trans again
  have signed : signature? other (content head body) = some signature := by
    unfold signature? at signed ⊢
    rwa [secret, algorithm]
  have parts : Form.splitOnce separator (content head body) =
      (Text.Base64.encode (Text.Utf8.encode head), Text.Base64.encode (Text.Utf8.encode body)) :=
    Form.splitOnce_append (separator_notMem_encode _)
  obtain ⟨taken, dropped⟩ := Prod.mk.inj parts
  rw [taken] at dropped
  have filled : settings.algorithm.isEmpty = false := by
    rw [← Algorithm.name_of_ofName? known]
    cases way <;> decide
  have joined : (content head body).contains separator = true := by simp [content]
  unfold signedClaims
  rw [String.toList_ofList, splitLast?_append (separator_notMem_encode signature)]
  dsimp only [bind, Except.bind, orInvalid, ensureValid]
  rw [joined, taken, decodePart?_encode]
  dsimp only [if_true]
  rw [mapping_encode opened]
  dsimp only
  rw [dropped, decodePart?_encode]
  dsimp only
  rw [decodePart?_encode, named]
  dsimp only
  rw [algorithm, signed, filled]
  simp

/-- A token holds its claims for everyone who has the secret and signs in the same way. -/
theorem signedClaims_encode {claims : Claims} {body token : List Char}
    (secret : other.secretKey = settings.secretKey)
    (algorithm : other.algorithm = settings.algorithm)
    (written : Json.write? (.dict claims) = some body) (read : Json.read body = .ok (.dict claims))
    (issued : encode settings claims = .ok token) :
    signedClaims other (String.ofList token) = .ok claims := by
  obtain ⟨text, same, taken⟩ := signedClaims_eq secret algorithm issued
  cases written.symm.trans same
  rw [taken, mapping_encode read]

/-! ### Claims -/

section
variable {name other : String} {value : Value} {claims : Claims}

/-- Where the value of one claim is replaced, every name is found at the same claim as before. -/
theorem lookup_replaced (name other : String) (value : Value) (claims : Claims) :
    Value.lookup
        (claims.map fun entry => if isKey name entry.1 then (entry.1, value) else entry) other =
      (claims.find? fun entry => isKey other entry.1).map fun entry =>
        if isKey name entry.1 then value else entry.2 := by
  have kept : (fun entry : Value × Value => entry.1.asText? == some other) ∘
      (fun entry => if isKey name entry.1 then (entry.1, value) else entry) =
      fun entry => isKey other entry.1 := by
    funext entry
    dsimp only [Function.comp]
    split <;> rfl
  unfold Value.lookup
  rw [List.find?_map, kept]
  cases claims.find? fun entry => isKey other entry.1 with
  | none => rfl
  | some entry =>
    simp only [Option.map_some]
    split <;> rfl

/-- The value that a claim was given is found under its name. -/
theorem lookup_withClaim (name : String) (value : Value) (claims : Claims) :
    Value.lookup (withClaim name value claims) name = some value := by
  unfold withClaim
  split
  next held =>
    obtain ⟨entry, among, named⟩ := List.any_eq_true.mp held
    have present : (claims.find? fun entry => isKey name entry.1).isSome = true :=
      List.find?_isSome.mpr ⟨entry, among, named⟩
    obtain ⟨first, found⟩ := Option.isSome_iff_exists.mp present
    have same : isKey name first.1 = true := by simpa using List.find?_some found
    rw [lookup_replaced, found, Option.map_some, if_pos same]
  next absent =>
    have none : claims.find? (fun entry => isKey name entry.1) = none :=
      List.find?_eq_none.mpr fun entry among named =>
        absent (List.any_eq_true.mpr ⟨entry, among, named⟩)
    have none : claims.find? (fun entry => entry.1.asText? == some name) = Option.none := none
    unfold Value.lookup
    rw [List.find?_append, none]
    simp [Value.asText?]

/-- Other claims are found as before. -/
theorem lookup_withClaim_other (different : other ≠ name) (value : Value) (claims : Claims) :
    Value.lookup (withClaim name value claims) other = Value.lookup claims other := by
  unfold withClaim
  split
  next =>
    rw [lookup_replaced]
    refine Option.map_congr fun entry found => ?_
    have named : isKey other entry.1 = true := by simpa using List.find?_some found
    have apart : isKey name entry.1 = false := by
      rw [isKey, eq_of_beq named]
      simpa using different
    rw [if_neg (by simp [apart])]
  next =>
    have last : [(Value.text name, value)].find? (fun entry => entry.1.asText? == some other) =
        none := by simpa [Value.asText?] using different.symm
    unfold Value.lookup
    rw [List.find?_append, last, Option.or_none]

/-- In claims as JSON has them, the one of a name is replaced or a new one is put at the end. -/
theorem withClaim_eq_put (document : IsDocument (.dict claims)) (name : String) (value : Value) :
    withClaim name value claims = Json.put claims name value := by
  have apart := document.2 _ .whole
  have keys : ∀ entry ∈ claims, ∃ letters, entry.1 = .text letters := by
    cases document.1 with
    | dict keys _ => exact keys
  have replaced : (claims.map fun entry => if isKey name entry.1 then (entry.1, value) else entry) =
      Value.replaceEntry (fun other => other.asText? == some name) value claims := by
    clear document
    induction claims with
    | nil => rfl
    | cons entry rest ih =>
      obtain ⟨key, old⟩ := entry
      obtain ⟨fresh, restApart⟩ := List.nodup_cons.mp apart
      obtain ⟨⟨letters, named⟩, restKeys⟩ := List.forall_mem_cons.mp keys
      obtain rfl : key = .text letters := named
      unfold Value.replaceEntry
      rw [List.map_cons]
      by_cases same : isKey name (.text letters) = true
      · have here : ((Value.text letters).asText? == some name) = true := same
        obtain rfl : letters = name := by simpa [isKey, Value.asText?] using same
        rw [if_pos same, if_pos here]
        congr 1
        refine (List.map_congr_left fun entry member => ?_).trans (List.map_id _)
        obtain ⟨others, called⟩ := restKeys entry member
        rw [if_neg, id]
        intro again
        have equal : others = letters := by simpa [isKey, called, Value.asText?] using again
        exact fresh (List.mem_map.mpr ⟨entry, member, called.trans (by rw [equal])⟩)
      · have here : ¬ ((Value.text letters).asText? == some name) = true := same
        rw [if_neg same, if_neg here, ih restApart restKeys]
  unfold withClaim Json.put
  rw [replaced]
  rfl

/-- Claims stay as JSON has them where one gets a whole number. -/
theorem isDocument_withClaim (document : IsDocument (.dict claims)) (name : String) (n : Int) :
    IsDocument (.dict (withClaim name (.int n) claims)) := by
  rw [withClaim_eq_put document]
  exact isDocument_builtUp.put claims name (.int n) document (isDocument_builtUp.int n)

theorem hasUnsplitTexts_withClaim (document : IsDocument (.dict claims))
    (unsplit : Json.HasUnsplitTexts (.dict claims)) {name : String}
    (whole : Text.isWhole name = true) (n : Int) :
    Json.HasUnsplitTexts (.dict (withClaim name (.int n) claims)) := by
  rw [withClaim_eq_put document]
  exact unsplit.put (Json.isUnsplit_of_whole whole) (Json.hasUnsplitTexts_int n)

/-- There are no moments in JSON. -/
theorem inSeconds_document (document : IsDocument (.dict claims)) : inSeconds claims = claims := by
  have each : ∀ entry ∈ claims, IsJson entry.2 := by
    cases document.1 with
    | dict _ each => exact each
  refine (List.map_congr_left fun entry member => ?_).trans (List.map_id _)
  have json := each entry member
  obtain ⟨key, held⟩ := entry
  cases json <;> rfl

end

/-- Claims as JSON has them, of which only the subject has a meaning for tokens. It is a text. An
expiry may be among the claims; it is replaced. -/
structure ArePlain (claims : Claims) : Prop where
  document : IsDocument (.dict claims)
  unsplit : Json.HasUnsplitTexts (.dict claims)
  subject : ∀ value, Value.lookup claims "sub" = some value → ∃ letters, value = .text letters
  meaningless : ∀ name ∈ ["iat", "nbf", "aud", "jti", "at_hash"], Value.lookup claims name = none

theorem ArePlain.single {name : String} {value : Value} (whole : Text.isWhole name = true)
    (meaningless : name ∉ ["sub", "iat", "nbf", "aud", "jti", "at_hash"])
    (document : IsDocument value) (unsplit : Json.HasUnsplitTexts value) :
    ArePlain [(.text name, value)] := by
  have absent (other : String) (among : other ∈ ["sub", "iat", "nbf", "aud", "jti", "at_hash"]) :
      Value.lookup [(.text name, value)] other = none := by
    have different : name ≠ other := by
      rintro rfl
      exact meaningless among
    simpa [Value.lookup, Value.asText?] using different
  exact {
    document := isDocument_builtUp.put [] name value isDocument_builtUp.empty document
    unsplit := Json.hasUnsplitTexts_empty.put (Json.isUnsplit_of_whole whole) unsplit
    subject := fun held found => by
      rw [absent "sub" (List.mem_cons_self ..)] at found
      cases found
    meaningless := fun other among => absent other (List.mem_cons_of_mem _ among) }

section
variable {now later : Moment} {lifetime : Option Int} {claims : Claims} {token : String}

/-- The claims that a token holds. -/
def dated (settings : Settings) (now : Moment) (lifetime : Option Int) (claims : Claims) : Claims :=
  withClaim "exp" (.int (lastSecond settings now lifetime)) claims

/-- A token can be made for claims as JSON has them: the calendar does not end before the token
expires, the settings tell how to sign, and what the token holds is neither nested too deep nor has
a whole number of too many digits. -/
structure IsIssuable (settings : Settings) (now : Moment) (lifetime : Option Int)
    (claims : Claims) : Prop where
  expires : ∃ second, expiry? settings now lifetime = some second
  algorithm : ∃ algorithm, Algorithm.ofName? settings.algorithm = some algorithm
  secret : isPublicKey settings.secretKey = false
  shallow : (Value.dict (dated settings now lifetime claims)).depth ≤ Json.maxDepth
  short : Json.HasShortNumbers (.dict (dated settings now lifetime claims))

theorem issue_iff (document : IsDocument (.dict claims))
    (unsplit : Json.HasUnsplitTexts (.dict claims)) :
    (∃ token, issue settings now lifetime claims = .ok token) ↔
      IsIssuable settings now lifetime claims := by
  constructor
  · rintro ⟨token, issued⟩
    obtain ⟨second, letters, expires, encoded, -⟩ := issue_eq_ok_iff.mp issued
    have good := isDocument_withClaim document "exp" second
    rw [inSeconds_document good] at encoded
    obtain ⟨algorithm, secret, shallow, body, written⟩ := exists_encode_iff.mp ⟨letters, encoded⟩
    have short := Json.hasShortNumbers_of_write? good.1 written
    rw [expiry?_eq expires] at shallow short
    exact ⟨⟨second, expires⟩, algorithm, secret, shallow, short⟩
  · rintro ⟨⟨second, expires⟩, algorithm, secret, shallow, short⟩
    unfold dated at shallow short
    rw [← expiry?_eq expires] at shallow short
    have good := isDocument_withClaim document "exp" second
    obtain ⟨body, written, -⟩ := Json.isReread good.1 good.2
      (hasUnsplitTexts_withClaim document unsplit (by decide) second) short
    obtain ⟨letters, encoded⟩ :=
      exists_encode_iff.mpr ⟨algorithm, secret, shallow, body, written⟩
    rw [← inSeconds_document good] at encoded
    exact ⟨_, issue_eq_ok_iff.mpr ⟨second, letters, expires, encoded, rfl⟩⟩

/-- A token is read as the claims that it was issued for, and they are checked. -/
theorem verify_issue (secret : other.secretKey = settings.secretKey)
    (algorithm : other.algorithm = settings.algorithm) (document : IsDocument (.dict claims))
    (unsplit : Json.HasUnsplitTexts (.dict claims))
    (issued : issue settings now lifetime claims = .ok token) (later : Moment) :
    verify other later token = (checkClaims later (dated settings now lifetime claims)).map
      fun _ => dated settings now lifetime claims := by
  obtain ⟨second, letters, expires, encoded, rfl⟩ := issue_eq_ok_iff.mp issued
  have good := isDocument_withClaim document "exp" second
  rw [inSeconds_document good] at encoded
  obtain ⟨_, _, _, -, shallow, written, -, -⟩ := encode_eq_ok_iff.mp encoded
  obtain ⟨body, again, reads⟩ := Json.isReread good.1 good.2
    (hasUnsplitTexts_withClaim document unsplit (by decide) second)
    (Json.hasShortNumbers_of_write? good.1 written)
  have taken := signedClaims_encode secret algorithm again (reads.read_alone shallow) encoded
  unfold verify dated
  rw [taken, ← expiry?_eq expires]
  dsimp only [bind, Except.bind, pure, Except.pure]
  cases checkClaims later (withClaim "exp" (.int second) claims) <;> rfl

theorem checkTime_absent {name : String} (absent : Value.lookup claims name = none)
    (isGood : Int → Bool) : checkTime claims name isGood = .ok () := by
  unfold checkTime
  rw [absent]

theorem checkTime_int {name : String} {n : Int} (held : Value.lookup claims name = some (.int n))
    (isGood : Int → Bool) :
    checkTime claims name isGood = if isGood n then .ok () else .error .invalid := by
  unfold checkTime
  rw [held]
  rfl

theorem isTextIfGiven_of_lookup {name : String}
    (text : ∀ value, Value.lookup claims name = some value → ∃ letters, value = .text letters) :
    isTextIfGiven claims name = true := by
  unfold isTextIfGiven
  cases found : Value.lookup claims name with
  | none => rfl
  | some value =>
    obtain ⟨letters, rfl⟩ := text value found
    rfl

/-- Of plain claims only the expiry is checked. -/
theorem checkClaims_plain (plain : ArePlain claims) (second : Int) :
    checkClaims later (withClaim "exp" (.int second) claims) =
      if later.epochSeconds ≤ second then .ok () else .error .invalid := by
  have kept (name : String) (different : name ≠ "exp") :=
    lookup_withClaim_other different (.int second) claims
  have absent (name : String) (different : name ≠ "exp")
      (among : name ∈ ["iat", "nbf", "aud", "jti", "at_hash"]) :
      Value.lookup (withClaim "exp" (.int second) claims) name = none :=
    (kept name different).trans (plain.meaningless name among)
  have subject : isTextIfGiven (withClaim "exp" (.int second) claims) "sub" = true := by
    refine isTextIfGiven_of_lookup fun value found => plain.subject value ?_
    rwa [kept "sub" (by decide)] at found
  have unnamed : isTextIfGiven (withClaim "exp" (.int second) claims) "jti" = true := by
    refine isTextIfGiven_of_lookup fun value found => ?_
    rw [absent "jti" (by decide) (by decide)] at found
    cases found
  unfold checkClaims
  rw [checkTime_absent (absent "iat" (by decide) (by decide)),
    checkTime_absent (absent "nbf" (by decide) (by decide)),
    checkTime_int (lookup_withClaim "exp" (.int second) claims),
    absent "aud" (by decide) (by decide), absent "at_hash" (by decide) (by decide), subject,
    unnamed]
  simp only [decide_eq_true_eq]
  split <;> rfl

/-- A token for plain claims is read as these claims, with the second in which it expires, until
that second has passed. -/
theorem verify_plain (secret : other.secretKey = settings.secretKey)
    (algorithm : other.algorithm = settings.algorithm) (plain : ArePlain claims)
    (issued : issue settings now lifetime claims = .ok token) (later : Moment) :
    verify other later token =
      if later.epochSeconds ≤ lastSecond settings now lifetime then
        .ok (dated settings now lifetime claims)
      else .error .invalid := by
  rw [verify_issue secret algorithm plain.document plain.unsplit issued later, dated,
    checkClaims_plain plain]
  split <;> rfl

end

/-- A token has only signs that stand in a cookie as they are. -/
theorem encode_plain {claims : Claims} {token : List Char}
    (issued : encode settings claims = .ok token) : ∀ c ∈ token, Http.Cookie.isPlain c = true := by
  have digits : ∀ n < 64, Http.Cookie.isPlain (Text.Base64.digit n) = true := by decide
  have part (bytes : List UInt8) :
      ∀ c ∈ Text.Base64.encode bytes, Http.Cookie.isPlain c = true := by
    intro c member
    obtain ⟨n, small, rfl⟩ := Text.Base64.mem_encode member
    exact digits n small
  obtain ⟨way, head, body, signature, -, -, -, -, rfl⟩ := encode_parts issued
  have dot : Http.Cookie.isPlain separator = true := by decide
  refine List.forall_mem_append.mpr ⟨List.forall_mem_append.mpr ⟨part _, ?_⟩, ?_⟩
  · exact List.forall_mem_cons.mpr ⟨dot, part _⟩
  · exact List.forall_mem_cons.mpr ⟨dot, part _⟩

/-! ### Sessions -/

variable {now later : Moment} {user : Int} {email token : String}

/-- A session token says something, in signs that stand in a cookie as they are. -/
theorem issueSession_plain (issued : issueSession settings now user email = .ok token) :
    token ≠ "" ∧ ∀ c ∈ token.toList, Http.Cookie.isPlain c = true := by
  obtain ⟨expiry, letters, -, encoded, rfl⟩ := issueSession_encode issued
  rw [String.toList_ofList]
  refine ⟨?_, encode_plain encoded⟩
  obtain ⟨way, head, body, signature, -, -, -, -, rfl⟩ := encode_parts encoded
  simp [content]

theorem sessionClaims_plain (whole : Text.isWhole email = true) (user : Int) :
    ArePlain (sessionClaims user email) where
  document :=
    isDocument_builtUp.put _ "email" _
      (isDocument_builtUp.put [] "sub" _ isDocument_builtUp.empty
        (isDocument_builtUp.text (String.ofList (Text.ofInt user))))
      (isDocument_builtUp.text email)
  unsplit := by
    have subject : Json.IsUnsplit "sub".toList := Json.isUnsplit_of_whole (by decide)
    have address : Json.IsUnsplit "email".toList := Json.isUnsplit_of_whole (by decide)
    have number := Json.hasUnsplitTexts_text (Json.isUnsplit_of_whole (Text.ofInt_whole user))
    have email := Json.hasUnsplitTexts_text (Json.isUnsplit_of_whole whole)
    exact (Json.hasUnsplitTexts_empty.put subject number).put address email
  subject := by
    rintro _ ⟨⟩
    exact ⟨_, rfl⟩
  meaningless := by
    simp only [List.forall_mem_cons]
    exact ⟨rfl, rfl, rfl, rfl, rfl, by simp⟩

theorem user?_session (whole : Text.isWhole email = true)
    (short : (Text.digits user.natAbs).length ≤ Text.maxIntegerDigits) (expiry : Int) :
    user? (signedSession expiry user email) = some user := by
  have subject : (Value.lookup (signedSession expiry user email) "sub").bind Value.asText? =
    some (String.ofList (Text.ofInt user)) := rfl
  have address : (Value.lookup (signedSession expiry user email) "email").getD .null =
    .text email := rfl
  unfold user?
  rw [subject, address]
  dsimp only [bind]
  have accepted : Schema.text (.text email) = .accepted email := Schema.returns_text.again whole
  have taken : Schema.nullable Schema.text (.text email) = .accepted (some email) :=
    Checked.map_eq_accepted_iff.mpr ⟨email, accepted, rfl⟩
  rw [Option.bind_some, String.toList_ofList, Text.integer?_ofInt short, Option.bind_some, taken]
  rfl

/-- A token that was issued for a session names its user as long as it is good, and then nobody. -/
theorem user_issueSession (secret : other.secretKey = settings.secretKey)
    (algorithm : other.algorithm = settings.algorithm) (whole : Text.isWhole email = true)
    (short : (Text.digits user.natAbs).length ≤ Text.maxIntegerDigits)
    (issued : issueSession settings now user email = .ok token) (later : Moment) :
    Token.user other later token =
      if later.epochSeconds ≤ now.epochSeconds + defaultLifetime settings then .ok user
      else .error .invalid := by
  have plain := sessionClaims_plain whole user
  have signed : dated settings now none (sessionClaims user email) =
      signedSession (lastSecond settings now none) user email := rfl
  unfold Token.user
  rw [verify_plain secret algorithm plain issued later, signed, ← lastSecond_none]
  split
  next =>
    dsimp only [bind, Except.bind]
    rw [user?_session whole short]
  next => rfl

end

end Token

end Outreach
