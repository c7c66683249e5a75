import Outreach.Proofs.Calendar.Exchange
import Outreach.Proofs.Json.Tree
import Outreach.Proofs.Schema.Accepted
import Outreach.Schema.Instant
import Outreach.Schema.Dump
import Outreach.Schema.Vocabulary
import Outreach.Value.Whole

/-! Data that was accepted is accepted again as it is kept, and can be told. For each kind of data
there is a property that all values read from JSON have, and under which what is written of a value
is read as that value. Records inherit this from their fields. -/

namespace Outreach

variable {α : Type}

/-! ### What can be told -/

/-- The form of a value in JSON can be sent. -/
def Value.IsTellable (value : Value) : Prop := value.toJson.isWhole = true

/-- Fields that can all be told. -/
def AreTellable (fields : List (String × Value)) : Prop :=
  ∀ field ∈ fields, Text.isWhole field.1 = true ∧ field.2.IsTellable

namespace Value

theorem keyToJson_text (letters : String) : keyToJson (text letters) = text letters := by
  have spelled : String.ofList (plain (text letters)) = letters := String.ofList_toList
  show text (String.ofList (plain (text letters))) = _
  rw [spelled]

theorem ofEncoded_cases (bs : List UInt8) :
    (∃ letters, ofEncoded bs = text letters) ∨
      (ofEncoded bs = bytes bs ∧ String.fromUTF8? bs.toByteArray = none) := by
  unfold ofEncoded
  cases decoded : String.fromUTF8? bs.toByteArray with
  | some letters => exact .inl ⟨letters, rfl⟩
  | none => exact .inr ⟨rfl, rfl⟩

theorem keyToJson_keyToJson (key : Value) : keyToJson (keyToJson key) = keyToJson key := by
  cases key with
  | bytes bs =>
    show keyToJson (ofEncoded bs) = ofEncoded bs
    rcases ofEncoded_cases bs with ⟨letters, encoded⟩ | ⟨kept, -⟩
    · rw [encoded, keyToJson_text]
    · rw [kept]
      exact kept
  | _ => exact keyToJson_text _

mutual

/-- The form of a value in JSON is its own form in JSON. -/
theorem toJson_toJson (value : Value) : value.toJson.toJson = value.toJson := by
  cases value with
  | float x =>
    by_cases finite : x.isFinite
    · simp [toJson, finite]
    · simp [toJson, finite]
  | bytes bs =>
    show toJson (ofEncoded bs) = ofEncoded bs
    rcases ofEncoded_cases bs with ⟨letters, encoded⟩ | ⟨kept, -⟩
    · rw [encoded]
      rfl
    · rw [kept]
      exact kept
  | list items => simp only [toJson, toJsonItems_toJsonItems]
  | tuple items => simp only [toJson, toJsonItems_toJsonItems]
  | set items => simp only [toJson, toJsonItems_toJsonItems]
  | dict entries => simp only [toJson, toJsonEntries_toJsonEntries]
  | rule rule => simp only [toJson, toJson_ruleToJson]
  | _ => rfl

theorem toJsonItems_toJsonItems (items : List Value) :
    toJsonItems (toJsonItems items) = toJsonItems items := by
  cases items with
  | nil => rfl
  | cons item rest => simp only [toJsonItems, toJson_toJson, toJsonItems_toJsonItems]

theorem toJsonEntries_toJsonEntries (entries : List (Value × Value)) :
    toJsonEntries (toJsonEntries entries) = toJsonEntries entries := by
  cases entries with
  | nil => rfl
  | cons entry rest =>
    obtain ⟨key, item⟩ := entry
    simp only [toJsonEntries, keyToJson_keyToJson, toJson_toJson, toJsonEntries_toJsonEntries]

theorem toJson_ruleToJson (rule : Rule) : (ruleToJson rule).toJson = ruleToJson rule := by
  cases rule with
  | leaf field operator value =>
    simp only [ruleToJson, record, toJson, List.map_cons, List.map_nil, toJsonEntries,
      keyToJson_text, toJson_toJson]
  | composite condition rules =>
    simp only [ruleToJson, record, toJson, List.map_cons, List.map_nil, toJsonEntries,
      keyToJson_text, toJsonItems_rulesToJson]

theorem toJsonItems_rulesToJson (rules : List Rule) :
    toJsonItems (rulesToJson rules) = rulesToJson rules := by
  cases rules with
  | nil => rfl
  | cons rule rest =>
    simp only [rulesToJson, toJsonItems, toJson_ruleToJson, toJsonItems_rulesToJson]

end

theorem IsTellable.toJson {value : Value} (told : value.IsTellable) : value.toJson.IsTellable := by
  rw [IsTellable, toJson_toJson]
  exact told

theorem isTellable_text {letters : String} : (text letters).IsTellable ↔ Text.isWhole letters :=
  Iff.rfl

theorem isTellable_int (n : Int) : (int n).IsTellable := rfl

theorem isTellable_float (x : Binary64) : (float x).IsTellable := by
  unfold IsTellable toJson
  split <;> rfl

theorem isTellable_list {items : List Value} (each : ∀ item ∈ items, item.IsTellable) :
    (list items).IsTellable := by
  show areWhole (toJsonItems items) = true
  induction items with
  | nil => rfl
  | cons item rest ih =>
    rw [List.forall_mem_cons] at each
    rw [toJsonItems, areWhole, each.1, ih each.2]
    rfl

theorem isTellable_record {fields : List (String × Value)} (each : AreTellable fields) :
    (record fields).IsTellable := by
  show haveWholeTexts (toJsonEntries (fields.map fun field => (text field.1, field.2))) = true
  induction fields with
  | nil => rfl
  | cons field rest ih =>
    obtain ⟨⟨name, value⟩, later⟩ := List.forall_mem_cons.mp each
    have key : (keyToJson (text field.1)).isWhole = true := by
      rw [keyToJson_text]
      exact name
    have told : field.2.toJson.isWhole = true := value
    rw [List.map_cons, toJsonEntries, haveWholeTexts, key, told, ih later]
    rfl

theorem isTellable_ofOption {write : α → Value} {given : Option α}
    (each : ∀ value ∈ given, (write value).IsTellable) : (ofOption write given).IsTellable := by
  cases given with
  | none => rfl
  | some value => exact each value rfl

theorem isTellable_ofTexts {texts : List String} (whole : ∀ text ∈ texts, Text.isWhole text) :
    (ofTexts texts).IsTellable := by
  refine isTellable_list fun item member => ?_
  obtain ⟨letters, among, rfl⟩ := List.mem_map.mp member
  exact whole letters among

end Value

theorem Text.isWhole_ascii {text : List Char} (ascii : IsAscii text) :
    isWhole (String.ofList text) = true := by
  have none : (text.any isHalf) = false := by
    rw [List.any_eq_false]
    intro c member
    have := ascii c member
    have below : ¬ halfShift ≤ c.toNat := by
      unfold halfShift
      omega
    simp [isHalf, half?, below]
  rw [isWhole, String.toList_ofList, none]
  rfl

theorem Instant.toText_isWhole (m : Moment) : Text.isWhole (toText m) = true := by
  rw [toText_eq]
  exact Text.isWhole_ascii (toText_ascii m)

theorem Style.isTellable_moment (style : Style) (m : Moment) : (style.moment m).IsTellable := by
  unfold Style.moment
  cases style.json <;> exact Instant.toText_isWhole m

theorem AreTellable.nil : AreTellable [] := List.forall_mem_nil _

theorem AreTellable.cons {name : String} {value : Value} {rest : List (String × Value)}
    (whole : Text.isWhole name = true) (told : value.IsTellable) (later : AreTellable rest) :
    AreTellable ((name, value) :: rest) := List.forall_mem_cons.mpr ⟨⟨whole, told⟩, later⟩

theorem AreTellable.append {first second : List (String × Value)} (left : AreTellable first)
    (right : AreTellable second) : AreTellable (first ++ second) :=
  List.forall_mem_append.mpr ⟨left, right⟩

/-! ### Entries -/

/-- What a record says about a field has a property, if it says something. -/
def Entry.All (good : α → Prop) (entry : Entry α) : Prop :=
  ∀ value, entry = .given value → good value

theorem Entry.all_absent {good : α → Prop} : Entry.All good .absent := by
  rintro value ⟨⟩

theorem Entry.all_given {good : α → Prop} {value : α} :
    Entry.All good (.given value) ↔ good value :=
  ⟨fun each => each value rfl, by rintro holds other ⟨⟩; exact holds⟩

theorem Entry.All.imp {good better : α → Prop} {entry : Entry α} (all : entry.All good)
    (implies : ∀ value, good value → better value) : entry.All better :=
  fun value given => implies value (all value given)

theorem Entry.All.getD {good : α → Prop} {entry : Entry α} {default : α} (all : entry.All good)
    (holds : good default) : good (entry.getD default) := by
  cases entry with
  | absent => exact holds
  | given value => exact all value rfl

/-- What was there and what is given have a property, and so has what stays of the two. -/
theorem Entry.All.orKept? {good : α → Prop} {entry : Entry (Option α)} {kept value : α}
    (all : entry.All fun given => ∀ value ∈ given, good value) (before : good kept)
    (chosen : entry.orKept? kept = some value) : good value := by
  rcases Entry.orKept?_eq_some_iff.mp chosen with ⟨-, rfl⟩ | said
  · exact before
  · exact all _ said value rfl

theorem AreTellable.entry {style : Style} {name : String} {default : Value} {write : α → Value}
    {entry : Entry α} (whole : Text.isWhole name = true) (told : default.IsTellable)
    (each : entry.All fun value => (write value).IsTellable) :
    AreTellable (style.entry name default write entry) := by
  cases entry with
  | absent =>
    unfold Style.entry
    cases style.onlyGiven with
    | true => exact .nil
    | false => exact .cons whole told .nil
  | given value => exact .cons whole (each value rfl) .nil

namespace Schema

/-! ### What is read is read again -/

/-- All that a reader makes of JSON is good, and what is written of a good value it reads as that
value. -/
structure Returns (reader : Reader α) (write : α → Value) (good : α → Prop) : Prop where
  found : ∀ {value result}, IsJson value → reader value = .accepted result → good result
  again : ∀ {result}, good result → reader (write result) = .accepted result

theorem returns_text : Returns text .text fun letters => Text.isWhole letters = true where
  found {value result} json read := by
    have whole {letters : String} (accepted : wholeText letters = .accepted result) :
        Text.isWhole result = true := by
      unfold wholeText at accepted
      split at accepted
      next whole =>
        cases accepted
        exact whole
      next => cases accepted
    cases json with
    | text letters => exact whole read
    | _ => cases read
  again whole := if_pos whole

/-- A text that has only characters, no fewer and no more than the bounds. -/
def IsBounded (least most : Nat) (letters : String) : Prop :=
  Text.isWhole letters = true ∧ least ≤ letters.length ∧ letters.length ≤ most

theorem returns_boundedText (least most : Nat) :
    Returns (boundedText least most) .text (IsBounded least most) where
  found json read := by
    obtain ⟨letters, accepted, bounded⟩ := Checked.andThen_eq_accepted_iff.mp read
    have whole := returns_text.found json accepted
    split at bounded
    next => cases bounded
    next short =>
      split at bounded
      next => cases bounded
      next long =>
        cases bounded
        exact ⟨whole, Nat.not_lt.mp long, Nat.not_lt.mp short⟩
  again := by
    rintro letters ⟨whole, long, short⟩
    refine Checked.andThen_eq_accepted_iff.mpr ⟨letters, returns_text.again whole, ?_⟩
    rw [if_neg (Nat.not_lt.mpr short), if_neg (Nat.not_lt.mpr long)]

theorem returns_nullable {reader : Reader α} {write : α → Value} {good : α → Prop}
    (returns : Returns reader write good) (filled : ∀ value, write value ≠ .null) :
    Returns (nullable reader) (.ofOption write) fun given => ∀ value ∈ given, good value where
  found {value result} json read := by
    rintro found ⟨⟩
    exact returns.found json (nullable_some read)
  again := by
    intro given each
    cases given with
    | none => rfl
    | some value =>
      have read := returns.again (each value rfl)
      unfold nullable Value.ofOption
      split
      next null => exact absurd null (filled value)
      next => exact Checked.map_eq_accepted_iff.mpr ⟨value, read, rfl⟩

theorem returns_integer : Returns integer .int fun _ => True where
  found _ _ := trivial
  again _ := rfl

theorem integerFrom_accepted {least n : Int} {value : Value}
    (read : integerFrom least value = .accepted n) : integer value = .accepted n ∧ least ≤ n := by
  obtain ⟨found, whole, bounded⟩ := Checked.andThen_eq_accepted_iff.mp read
  split at bounded
  next => cases bounded
  next enough =>
    cases bounded
    exact ⟨whole, Int.not_lt.mp enough⟩

theorem returns_integerFrom (least : Int) : Returns (integerFrom least) .int (least ≤ ·) where
  found _ read := (integerFrom_accepted read).2
  again enough := if_neg (Int.not_lt.mpr enough)

theorem returns_amount : Returns amount .float fun x => x.isNonnegative = true where
  found _ read := by
    obtain ⟨x, -, bounded⟩ := Checked.andThen_eq_accepted_iff.mp read
    split at bounded
    next nonnegative =>
      cases bounded
      exact nonnegative
    next => cases bounded
  again nonnegative := if_pos nonnegative

theorem returns_word {α : Type} [Vocabulary α] :
    Returns (Vocabulary.read : Reader α) Vocabulary.toValue fun _ => True where
  found _ _ := trivial
  again {a} _ := by
    unfold Vocabulary.read Vocabulary.toValue
    dsimp only
    rw [Vocabulary.ofWord?_word]

theorem items_good {reader : Reader α} {good : α → Prop}
    (each : ∀ value result, IsJson value → reader value = .accepted result → good result)
    {values : List Value} (json : ∀ value ∈ values, IsJson value) {index : Nat} {results : List α}
    (read : items reader index values = .accepted results) : ∀ result ∈ results, good result := by
  induction values generalizing index results with
  | nil =>
    cases read
    exact List.forall_mem_nil _
  | cons value rest ih =>
    rw [List.forall_mem_cons] at json
    obtain ⟨f, later, first, others, rfl⟩ := Checked.seq_eq_accepted_iff.mp read
    obtain ⟨result, accepted, rfl⟩ := Checked.map_eq_accepted_iff.mp first
    refine List.forall_mem_cons.mpr ⟨?_, ih json.2 others⟩
    exact each value result json.1 (Checked.under_eq_accepted_iff.mp accepted)

theorem items_again {reader : Reader α} {write : α → Value} {results : List α}
    (each : ∀ result ∈ results, reader (write result) = .accepted result) (index : Nat) :
    items reader index (results.map write) = .accepted results := by
  induction results generalizing index with
  | nil => rfl
  | cons result rest ih =>
    rw [List.forall_mem_cons] at each
    unfold items
    rw [List.map_cons]
    dsimp only
    rw [each.1, ih each.2]
    rfl

theorem returns_texts :
    Returns (list text) .ofTexts fun texts => ∀ letters ∈ texts, Text.isWhole letters = true where
  found {value result} json read := by
    cases json with
    | list each => exact items_good (fun _ _ => returns_text.found) each read
    | _ => cases read
  again each := items_again (fun letters member => returns_text.again (each letters member)) 0

theorem momentOf_accepted {cause : String → Issue.Cause} {outcome : Except Instant.Refusal Moment}
    {m : Moment} (read : momentOf cause outcome = .accepted m) : outcome = .ok m := by
  unfold momentOf at read
  split at read
  next =>
    cases read
    rfl
  next => cases read
  next => cases read

/-- Moments are kept as text or as they are, and read again as they were. -/
theorem returns_moment (style : Style) : Returns moment style.moment Moment.HasWholeOffset where
  found {value result} json read := by
    cases json with
    | int n =>
      unfold moment at read
      dsimp only at read
      split at read
      next => exact Instant.ofCount_whole (momentOf_accepted read)
      next =>
        split at read
        next => exact Instant.ofFloat_whole (momentOf_accepted read)
        next => cases read
    | float x => exact Instant.ofFloat_whole (momentOf_accepted read)
    | text letters =>
      obtain ⟨text, -, accepted⟩ := Checked.andThen_eq_accepted_iff.mp read
      exact Instant.ofText_whole (momentOf_accepted accepted)
    | _ => cases read
  again {m} whole := by
    have text : moment (.text (Instant.toText m)) = .accepted m := by
      refine Checked.andThen_eq_accepted_iff.mpr ⟨Instant.toText m, ?_, ?_⟩
      · exact if_pos (Instant.toText_isWhole m)
      · rw [momentOfBytes, Instant.ofText_toText whole]
        rfl
    unfold Style.moment
    cases style.json with
    | true => exact text
    | false => rfl

/-! ### Records -/

theorem lookup_fields (fields : List (String × Value)) (key : String) :
    Value.lookup (fields.map fun field => (.text field.1, field.2)) key = fields.lookup key := by
  induction fields with
  | nil => rfl
  | cons field rest ih =>
    obtain ⟨name, value⟩ := field
    rw [List.map_cons, List.lookup_cons, ← ih]
    unfold Value.lookup
    rw [List.find?_cons]
    by_cases same : name = key
    · have found : ((Value.text name).asText? == some key) = true := by simp [Value.asText?, same]
      have first : (key == name) = true := by simp [same]
      rw [found, first]
      rfl
    · have missed : ((Value.text name).asText? == some key) = false := by
        simp [Value.asText?, same]
      have later : (key == name) = false := by simpa using Ne.symm same
      rw [missed, later]

theorem lookup_entry (style : Style) (name : String) (default : Value) (write : α → Value)
    (entry : Entry α) :
    (style.entry name default write entry).lookup name = match entry with
      | .absent => if style.onlyGiven then none else some default
      | .given value => some (write value) := by
  cases entry with
  | absent =>
    unfold Style.entry
    cases style.onlyGiven <;> simp
  | given value => simp [Style.entry]

theorem lookup_entry_other (style : Style) {name key : String} (default : Value)
    (write : α → Value) (entry : Entry α) (other : key ≠ name) :
    (style.entry name default write entry).lookup key = none := by
  cases entry with
  | absent =>
    unfold Style.entry
    cases style.onlyGiven <;> simp [other]
  | given value => simp [Style.entry, other]

variable {reader : Reader α} {write : α → Value} {good : α → Prop}

theorem required_found (returns : Returns reader write good) {entries : List (Value × Value)}
    (json : IsJson (.dict entries)) {name : String} {result : α}
    (read : required entries name reader = .accepted result) : good result := by
  obtain ⟨value, held, accepted⟩ := required_accepted read
  exact returns.found (json.lookup held) accepted

theorem permitted_found (returns : Returns reader write good) {entries : List (Value × Value)}
    (json : IsJson (.dict entries)) {name : String} {entry : Entry α}
    (read : permitted entries name reader = .accepted entry) : entry.All good := by
  rintro result rfl
  obtain ⟨value, held, accepted⟩ := permitted_given read
  exact returns.found (json.lookup held) accepted

theorem required_field (fields : List (String × Value)) (name : String) {value : Value}
    {result : α} (held : fields.lookup name = some value) (read : reader value = .accepted result) :
    required (fields.map fun field => (.text field.1, field.2)) name reader = .accepted result :=
  required_of_lookup (by rw [lookup_fields, held]) read

theorem permitted_field (fields : List (String × Value)) (name : String) {value : Value}
    {result : α} (held : fields.lookup name = some value) (read : reader value = .accepted result) :
    permitted (fields.map fun field => (.text field.1, field.2)) name reader =
      .accepted (.given result) := by
  unfold permitted
  rw [lookup_fields, held]
  exact Checked.map_eq_accepted_iff.mpr ⟨result, Checked.under_eq_accepted_iff.mpr read, rfl⟩

/-- An entry that was written is read again; where the style writes what stands for an absent one,
that is read instead. -/
theorem permitted_again (returns : Returns reader write good) {fields : List (String × Value)}
    (style : Style) (name : String) (default : Value) {entry : Entry α}
    (held : fields.lookup name = (style.entry name default write entry).lookup name)
    (all : entry.All good) (fallback : ∃ result, reader default = .accepted result ∧ good result) :
    ∃ again, permitted (fields.map fun field => (.text field.1, field.2)) name reader =
      .accepted again ∧ again.All good := by
  rw [lookup_entry] at held
  cases entry with
  | given value =>
    have sound := all value rfl
    exact ⟨.given value, permitted_field fields name held (returns.again sound),
      Entry.all_given.mpr sound⟩
  | absent =>
    obtain ⟨result, read, sound⟩ := fallback
    cases only : style.onlyGiven with
    | false =>
      rw [only] at held
      exact ⟨.given result, permitted_field fields name held read, Entry.all_given.mpr sound⟩
    | true =>
      rw [only] at held
      refine ⟨.absent, ?_, Entry.all_absent⟩
      unfold permitted
      rw [lookup_fields, held]
      rfl

theorem textEntries_go (known : List (String × Value)) {fields : List (String × Value)}
    (whole : ∀ field ∈ fields, Text.isWhole field.1 = true)
    (apart : ((known ++ fields).map (·.1)).Nodup) :
    textEntries.go (known.map fun field => (.text field.1, field.2))
        (fields.map fun field => (.text field.1, field.2)) =
      .accepted ((known ++ fields).map fun field => (.text field.1, field.2)) := by
  induction fields generalizing known with
  | nil => rw [List.map_nil, List.append_nil, textEntries.go]
  | cons field rest ih =>
    rw [List.forall_mem_cons] at whole
    have read : text (.text field.1) = .accepted field.1 := returns_text.again whole.1
    have new : known.lookup field.1 = none := by
      rw [List.lookup_eq_none_iff]
      intro other member
      rw [List.map_append, List.nodup_append] at apart
      have differ := apart.2.2 other.1 (List.mem_map_of_mem member) field.1 (by simp)
      simpa using Ne.symm differ
    have later := ih (known ++ [field]) whole.2 (by simpa using apart)
    rw [List.map_cons, textEntries.go, read]
    dsimp only
    rw [lookup_fields, new]
    simpa using later

/-- A mapping with different texts as keys is read as it stands. -/
theorem mapping_record {fields : List (String × Value)} {names : List String}
    (named : fields.map (·.1) = names) (whole : ∀ name ∈ names, Text.isWhole name = true)
    (apart : names.Nodup) :
    mapping (.record fields) = .accepted (fields.map fun field => (.text field.1, field.2)) := by
  subst named
  exact textEntries_go [] (List.forall_mem_map.mp whole) apart

end Schema

end Outreach
