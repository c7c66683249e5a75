import Outreach.Json.Reader
import Outreach.Proofs.Outcome
import Outreach.Proofs.Value.Sameness
import Outreach.Value.Shared

/-! The values that JSON texts stand for. Whatever is read from a text is one of them: nothing in it
is shared, no number in it is a decimal, and its mappings have texts for keys. -/

namespace Outreach

/-- A value as JSON has them. -/
inductive IsJson : Value → Prop where
  | null : IsJson .null
  | bool (b : Bool) : IsJson (.bool b)
  | int (n : Int) : IsJson (.int n)
  | float (x : Binary64) : IsJson (.float x)
  | text (letters : String) : IsJson (.text letters)
  | list {items : List Value} (each : ∀ item ∈ items, IsJson item) : IsJson (.list items)
  | dict {entries : List (Value × Value)}
      (keys : ∀ entry ∈ entries, ∃ letters, entry.1 = .text letters)
      (each : ∀ entry ∈ entries, IsJson entry.2) : IsJson (.dict entries)

namespace IsJson

theorem lookup {entries : List (Value × Value)} (json : IsJson (.dict entries)) {key : String}
    {value : Value} (held : Value.lookup entries key = some value) : IsJson value := by
  cases json with
  | dict keys each =>
    unfold Value.lookup at held
    obtain ⟨entry, found, rfl⟩ := Option.map_eq_some_iff.mp held
    exact each entry (List.mem_of_find?_eq_some found)

theorem member {member whole : Value} (json : IsJson whole) (held : Value.HasMember member whole) :
    IsJson member := by
  cases held with
  | list among =>
    cases json with
    | list each => exact each _ among
  | key among =>
    cases json with
    | dict keys each =>
      obtain ⟨letters, same⟩ := keys _ among
      rw [same]
      exact .text letters
  | entry among =>
    cases json with
    | dict keys each => exact each _ among
  | tuple among => cases json
  | set among => cases json
  | leaf => cases json
  | child => cases json

theorem part {part whole : Value} (json : IsJson whole) (held : Value.IsPart part whole) :
    IsJson part := by
  induction held with
  | whole => exact json
  | inside member below ih => exact ih (json.member member)

/-! ### References -/

/-- JSON refers to nothing, so nothing changes where references are followed. -/
theorem substitute {value : Value} (json : IsJson value) (referent : Nat → Value) :
    value.substitute referent = value := by
  induction json with
  | null | bool b | int n | float x | text letters => rfl
  | @list items each ih =>
    have same : Value.substituteItems referent items = items := by
      clear each
      induction items with
      | nil => rfl
      | cons item rest step =>
        rw [List.forall_mem_cons] at ih
        rw [Value.substituteItems, ih.1, step ih.2]
    rw [Value.substitute, same]
  | @dict entries keys each ih =>
    have same : Value.substituteEntries referent entries = entries := by
      clear each
      induction entries with
      | nil => rfl
      | cons entry rest step =>
        rw [List.forall_mem_cons] at keys ih
        obtain ⟨letters, text⟩ := keys.1
        obtain ⟨key, item⟩ := entry
        cases text
        rw [Value.substituteEntries, ih.1, step keys.2 ih.2]
        rfl
    rw [Value.substitute, same]

theorem resolve {value : Value} (json : IsJson value) (store : ValueStore) :
    value.resolve store = value := by
  cases json <;> rfl

end IsJson

namespace Json

theorem mem_replaceEntry {test : Value → Bool} {item : Value} {entries : List (Value × Value)}
    {entry : Value × Value} (member : entry ∈ Value.replaceEntry test item entries) :
    ∃ old ∈ entries, entry.1 = old.1 ∧ (entry.2 = old.2 ∨ entry.2 = item) := by
  induction entries with
  | nil => cases member
  | cons first rest ih =>
    obtain ⟨key, old⟩ := first
    unfold Value.replaceEntry at member
    split at member
    next =>
      rcases List.mem_cons.mp member with rfl | later
      · exact ⟨(key, old), List.mem_cons_self .., rfl, .inr rfl⟩
      · exact ⟨entry, List.mem_cons_of_mem _ later, rfl, .inl rfl⟩
    next =>
      rcases List.mem_cons.mp member with rfl | later
      · exact ⟨(key, old), List.mem_cons_self .., rfl, .inl rfl⟩
      · obtain ⟨held, among, same⟩ := ih later
        exact ⟨held, List.mem_cons_of_mem _ among, same⟩

theorem map_replaceEntry {test : Value → Bool} {item : Value} (entries : List (Value × Value)) :
    (Value.replaceEntry test item entries).map Prod.fst = entries.map Prod.fst := by
  induction entries with
  | nil => rfl
  | cons first rest ih =>
    obtain ⟨key, old⟩ := first
    unfold Value.replaceEntry
    split
    next => rfl
    next => rw [List.map_cons, List.map_cons, ih]

/-- An entry of an object to which one was added: an old one, perhaps with the new item, or the new
one. -/
theorem mem_put {entries : List (Value × Value)} {key : String} {item : Value}
    {entry : Value × Value} (member : entry ∈ put entries key item) :
    (∃ old ∈ entries, entry.1 = old.1 ∧ (entry.2 = old.2 ∨ entry.2 = item)) ∨
      entry = (.text key, item) := by
  unfold put at member
  split at member
  next => exact .inl (mem_replaceEntry member)
  next =>
    rcases List.mem_append.mp member with old | new
    · exact .inl ⟨entry, old, rfl, .inl rfl⟩
    · exact .inr (List.mem_singleton.mp new)

theorem put_isJson {entries : List (Value × Value)} {item : Value}
    (json : IsJson (.dict entries)) (added : IsJson item) (key : String) :
    IsJson (.dict (put entries key item)) := by
  cases json with
  | dict keys each =>
    apply IsJson.dict
    · intro entry member
      rcases mem_put member with ⟨old, among, same, -⟩ | rfl
      · rw [same]
        exact keys old among
      · exact ⟨key, rfl⟩
    · intro entry member
      rcases mem_put member with ⟨old, among, -, kept | replaced⟩ | rfl
      · rw [kept]
        exact each old among
      · rwa [replaced]
      · exact added

/-- An object gets no key twice. -/
theorem put_keys {entries : List (Value × Value)} {key : String}
    (apart : (entries.map Prod.fst).Nodup) (item : Value) :
    ((put entries key item).map Prod.fst).Nodup := by
  unfold put
  split
  next => rwa [map_replaceEntry]
  next absent =>
    have fresh : Value.text key ∉ entries.map Prod.fst := by
      intro taken
      obtain ⟨entry, member, same⟩ := List.mem_map.mp taken
      refine absent (List.any_eq_true.mpr ⟨entry, member, ?_⟩)
      rw [same]
      exact beq_self_eq_true (some key)
    rw [List.map_append]
    refine List.nodup_append.mpr ⟨apart, by simp, ?_⟩
    rintro old among new isNew rfl
    rw [List.mem_singleton.mp isNew] at among
    exact fresh among

/-! ### What holds of all that is read -/

/-- A property of values that the reader cannot leave: texts, numbers and words have it, and so do
arrays and objects that are put together from values that have it. -/
structure IsBuiltUp (good : Value → Prop) : Prop where
  text : ∀ letters, good (.text letters)
  int : ∀ n, good (.int n)
  float : ∀ x, good (.float x)
  word : ∀ entry ∈ words, good entry.2
  list : ∀ items, (∀ item ∈ items, good item) → good (.list items)
  empty : good (.dict [])
  put : ∀ entries key item, good (.dict entries) → good item → good (.dict (put entries key item))

/-- What is read within a number of steps has the property, given that what was read before has. -/
structure Reads (good : Value → Prop) (levels : Nat) : Prop where
  value : ∀ depth cursor found, readValue levels depth cursor = .ok found → good found.1
  items : ∀ depth seen cursor found, (∀ item ∈ seen, good item) →
    readItems levels depth seen cursor = .ok found → good found.1
  entries : ∀ depth seen cursor found, good (.dict seen) →
    readEntries levels depth seen cursor = .ok found → good found.1

section
variable {good : Value → Prop} {levels depth : Nat} {cursor : Cursor} {found : Value × Cursor}

theorem wordAt?_good (builtUp : IsBuiltUp good) (word : wordAt? cursor = some found) :
    good found.1 := by
  obtain ⟨entry, named, rfl⟩ := Option.map_eq_some_iff.mp word
  exact builtUp.word entry (List.mem_of_find?_eq_some named)

theorem readNumber_good (builtUp : IsBuiltUp good) {negative : Bool}
    (read : readNumber negative cursor = .ok found) : good found.1 := by
  unfold readNumber at read
  extract_lets whole start fraction middle coefficient at read
  split at read
  split at read
  next =>
    split at read
    next => cases read
    next =>
      cases read
      exact builtUp.int _
  next =>
    cases read
    exact builtUp.float _

theorem readValue_step (builtUp : IsBuiltUp good) (before : Reads good levels)
    (read : readValue (levels + 1) depth cursor = .ok found) : good found.1 := by
  unfold readValue at read
  split at read
  next => cases read
  next =>
    obtain ⟨⟨letters, after⟩, -, made⟩ := bind_eq_ok_iff.mp read
    cases made
    exact builtUp.text letters
  next =>
    split at read
    next => cases read
    next =>
      dsimp only at read
      split at read
      next =>
        cases read
        exact builtUp.empty
      next => exact before.entries _ _ _ _ builtUp.empty read
  next =>
    split at read
    next => cases read
    next =>
      dsimp only at read
      split at read
      next =>
        cases read
        exact builtUp.list [] (by simp)
      next => exact before.items _ _ _ _ (by simp) read
  next =>
    split at read
    next word =>
      cases read
      exact wordAt?_good builtUp word
    next =>
      split at read
      next => exact readNumber_good builtUp read
      next =>
        split at read
        next => exact readNumber_good builtUp read
        next => cases read

theorem readItems_step (builtUp : IsBuiltUp good) (before : Reads good levels) {seen : List Value}
    (known : ∀ item ∈ seen, good item)
    (read : readItems (levels + 1) depth seen cursor = .ok found) : good found.1 := by
  unfold readItems at read
  obtain ⟨⟨item, after⟩, here, rest⟩ := bind_eq_ok_iff.mp read
  have grown : ∀ other ∈ seen ++ [item], good other := by
    intro other member
    rcases List.mem_append.mp member with old | new
    · exact known other old
    · rw [List.mem_singleton] at new
      rw [new]
      exact before.value _ _ _ here
  dsimp only at rest
  split at rest
  next =>
    cases rest
    exact builtUp.list _ grown
  next => exact before.items _ _ _ _ grown rest
  next => cases rest

theorem readEntries_step (builtUp : IsBuiltUp good) (before : Reads good levels)
    {seen : List (Value × Value)} (known : good (.dict seen))
    (read : readEntries (levels + 1) depth seen cursor = .ok found) : good found.1 := by
  unfold readEntries at read
  split at read
  next =>
    obtain ⟨⟨key, afterKey⟩, -, rest⟩ := bind_eq_ok_iff.mp read
    dsimp only at rest
    split at rest
    next =>
      obtain ⟨⟨item, afterItem⟩, here, rest⟩ := bind_eq_ok_iff.mp rest
      have grown := builtUp.put _ key _ known (before.value _ _ _ here)
      dsimp only at rest
      split at rest
      next =>
        cases rest
        exact grown
      next => exact before.entries _ _ _ _ grown rest
      next => cases rest
    next => cases rest
  next => cases read

theorem reads_good (builtUp : IsBuiltUp good) (levels : Nat) : Reads good levels := by
  induction levels with
  | zero =>
    refine ⟨?_, ?_, ?_⟩
    · intro depth cursor found read
      cases read
    · intro depth seen cursor found known read
      cases read
    · intro depth seen cursor found known read
      cases read
  | succ levels before =>
    exact ⟨fun _ _ _ => readValue_step builtUp before,
      fun _ _ _ _ => readItems_step builtUp before,
      fun _ _ _ _ => readEntries_step builtUp before⟩

theorem read_good (builtUp : IsBuiltUp good) {text : List Char} {value : Value}
    (accepted : read text = .ok value) : good value := by
  obtain ⟨⟨found, after⟩, here, rest⟩ := bind_eq_ok_iff.mp accepted
  dsimp only at rest
  split at rest
  next =>
    cases rest
    exact (reads_good builtUp _).value _ _ _ here
  next => cases rest

end

theorem isJson_builtUp : IsBuiltUp IsJson where
  text := .text
  int := .int
  float := .float
  word := by simp [words, IsJson.null, IsJson.bool, IsJson.float]
  list _ := .list
  empty := .dict (by simp) (by simp)
  put _ key _ json added := put_isJson json added key

end Json

end Outreach
