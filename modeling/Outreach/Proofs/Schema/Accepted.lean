import Outreach.Proofs.Json.Tree
import Outreach.Schema.Checked

/-! What is known of data that a schema accepts. A record is accepted with all of its fields, and a
field with what its own reader made of the value under its name. -/

namespace Outreach

variable {α β : Type}

namespace Checked

theorem map_eq_accepted_iff {f : α → β} {checked : Checked α} {result : β} :
    f <$> checked = accepted result ↔ ∃ value, checked = accepted value ∧ f value = result := by
  cases checked <;> simp [Functor.map, map]

theorem seq_eq_accepted_iff {f : Checked (α → β)} {checked : Checked α} {result : β} :
    f <*> checked = accepted result ↔
      ∃ g value, f = accepted g ∧ checked = accepted value ∧ g value = result := by
  cases f <;> cases checked <;> simp [Seq.seq, both]

theorem andThen_eq_accepted_iff {checked : Checked α} {next : α → Checked β} {result : β} :
    checked.andThen next = accepted result ↔
      ∃ value, checked = accepted value ∧ next value = accepted result := by
  cases checked <;> simp [andThen]

theorem under_eq_accepted_iff {segment : String} {checked : Checked α} {value : α} :
    checked.under segment = accepted value ↔ checked = accepted value := by
  cases checked <;> simp [under]

theorem toOption_eq_some_iff {checked : Checked α} {value : α} :
    checked.toOption = some value ↔ checked = accepted value := by
  cases checked <;> simp [toOption]

end Checked

namespace Entry

variable {kept value : α} {entry : Entry (Option α)}

theorem orKept?_eq_some_iff :
    entry.orKept? kept = some value ↔
      (entry = absent ∧ value = kept) ∨ entry = given (some value) := by
  cases entry with
  | absent => simp [orKept?, eq_comm]
  | given given => simp [orKept?]

theorem kept_of_absent (chosen : entry.orKept? kept = some value) (unsaid : entry = absent) :
    value = kept := by
  rcases orKept?_eq_some_iff.mp chosen with ⟨-, same⟩ | said
  · exact same
  · cases unsaid.symm.trans said

end Entry

namespace Schema

theorem record_accepted {origin : Origin} {name : String}
    {build : List (Value × Value) → Checked α} {data : Value} {result : α}
    (read : record origin name build data = .accepted result) :
    ∃ entries, fieldsOf? origin data = some entries ∧ build entries = .accepted result := by
  unfold record at read
  split at read
  next entries found => exact ⟨entries, found, read⟩
  next => cases read

theorem fields_of_json {origin : Origin} {value : Value} {entries : List (Value × Value)}
    (json : IsJson value) (fields : fieldsOf? origin value = some entries) :
    value = .dict entries := by
  cases json with
  | dict keys each =>
    cases fields
    rfl
  | _ => cases origin <;> cases fields

/-- JSON is accepted as a record only if it is a mapping. -/
theorem record_of_json {origin : Origin} {name : String}
    {build : List (Value × Value) → Checked α} {data : Value} {result : α} (json : IsJson data)
    (read : record origin name build data = .accepted result) :
    ∃ entries, data = .dict entries ∧ build entries = .accepted result := by
  obtain ⟨entries, fields, built⟩ := record_accepted read
  exact ⟨entries, fields_of_json json fields, built⟩

theorem required_accepted {entries : List (Value × Value)} {name : String} {reader : Reader α}
    {result : α} (read : required entries name reader = .accepted result) :
    ∃ value, Value.lookup entries name = some value ∧ reader value = .accepted result := by
  unfold required at read
  split at read
  next value held => exact ⟨value, held, Checked.under_eq_accepted_iff.mp read⟩
  next => cases read

theorem required_of_lookup {entries : List (Value × Value)} {name : String} {reader : Reader α}
    {value : Value} {result : α} (held : Value.lookup entries name = some value)
    (read : reader value = .accepted result) : required entries name reader = .accepted result := by
  unfold required
  rw [held]
  exact Checked.under_eq_accepted_iff.mpr read

theorem permitted_given {entries : List (Value × Value)} {name : String} {reader : Reader α}
    {result : α} (read : permitted entries name reader = .accepted (.given result)) :
    ∃ value, Value.lookup entries name = some value ∧ reader value = .accepted result := by
  unfold permitted at read
  split at read
  next value held =>
    obtain ⟨accepted, found, given⟩ := Checked.map_eq_accepted_iff.mp read
    cases given
    exact ⟨value, held, Checked.under_eq_accepted_iff.mp found⟩
  next => cases read

/-- A value that is there under a permitted name is read if the record is. -/
theorem permitted_accepted {entries : List (Value × Value)} {name : String} {reader : Reader α}
    {entry : Entry α} {value : Value} (read : permitted entries name reader = .accepted entry)
    (held : Value.lookup entries name = some value) :
    ∃ result, reader value = .accepted result := by
  unfold permitted at read
  rw [held] at read
  obtain ⟨result, found, -⟩ := Checked.map_eq_accepted_iff.mp read
  exact ⟨result, Checked.under_eq_accepted_iff.mp found⟩

theorem nullable_some {reader : Reader α} {data : Value} {result : α}
    (read : nullable reader data = .accepted (some result)) : reader data = .accepted result := by
  unfold nullable at read
  split at read
  next => cases read
  next =>
    obtain ⟨value, found, same⟩ := Checked.map_eq_accepted_iff.mp read
    cases same
    exact found

end Schema

end Outreach
