import Outreach.Proofs.Calendar.Iso
import Outreach.Proofs.Rule.Exact

/-! Leaves of date fields. Moments with any offset, wall-clock times, plain dates and ISO texts are
compared by the instants that they name, so the text of a moment may stand for the moment on either
side. Texts keep every instant but that of an offset of less than a second, which no ISO text can
give. -/

namespace Outreach

/-- The instant that a value names where a field of dates takes it: a moment its own, a date its
first, and a text that of the moment it writes. -/
inductive Value.Names : Value → Int → Prop where
  | moment (m : Moment) : Names (.moment m) m.instant
  | date (d : Date) : Names (.date d) (Moment.ofDate d).instant
  | text {letters : String} {m : Moment} (written : Iso.ofText? letters.toList = some m) :
      Names (.text letters) m.instant

/-- The ISO texts of moments and dates. A moment whose offset is nothing has a second one, which
ends with the letter for universal time. -/
inductive Value.Writes : Value → Value → Prop where
  | moment {m : Moment} (legible : m.IsLegible) :
      Writes (.text (String.ofList (m.toText 'T'))) (.moment m)
  | zoned {m : Moment} (universal : m.shift = 0) :
      Writes (.text (String.ofList (m.wallClock.toText 'T' ++ ['Z']))) (.moment m)
  | date (d : Date) : Writes (.text (String.ofList (Moment.dateText d))) (.date d)

namespace Value

/-- The text of any moment names an instant, if not always that of the moment. -/
theorem names_toText (m : Moment) :
    (Value.text (String.ofList (m.toText 'T'))).Names m.reread.instant := by
  apply Names.text
  rw [String.toList_ofList]
  exact Iso.ofText?_toText m

/-- A text names the instant of what it writes. -/
theorem Writes.names {text value : Value} {i : Int} (writes : text.Writes value)
    (names : value.Names i) : text.Names i := by
  cases writes with
  | @moment m legible =>
    cases names
    have read := names_toText m
    rwa [legible.reread] at read
  | @zoned m universal =>
    cases names
    have instant : m.instant = Moment.instant { m with offset := some .zero } := by
      rw [Moment.instant, universal]
      rfl
    rw [instant]
    apply Names.text
    rw [String.toList_ofList]
    exact Iso.ofText?_zoned m
  | date d =>
    cases names
    apply Names.text
    rw [String.toList_ofList]
    exact Iso.ofText?_dateText d

/-- A field of dates brings a value to a moment with an offset that names the same instant. -/
theorem Names.normalize {field : Field} (dated : field.type = .date) {value : Value} {i : Int}
    (names : value.Names i) :
    ∃ m : Moment, field.normalize value = .ok (.moment m) ∧ m.offset.isSome ∧ m.instant = i := by
  cases names with
  | moment m =>
    exact ⟨m.inUniversalTime, by simp [Field.normalize, dated, Field.toMoment], rfl,
      m.instant_inUniversalTime⟩
  | date d =>
    exact ⟨(Moment.ofDate d).inUniversalTime, by simp [Field.normalize, dated, Field.toMoment], rfl,
      (Moment.ofDate d).instant_inUniversalTime⟩
  | @text letters m written =>
    exact ⟨m.inUniversalTime, by simp [Field.normalize, dated, Field.toMoment, asText?, written],
      rfl, m.instant_inUniversalTime⟩

theorem Names.exposed {value : Value} {i : Int} (names : value.Names i) (store : ValueStore) :
    value.exposed store = value := by
  cases names <;> cases store <;> rfl

end Value

namespace Rule

/-- Comparisons of moments with offsets say what their instants say. -/
theorem applyOperator_moments {operator : Operator} (comparing : operator.kind ≠ .membership)
    {m n : Moment} (left : m.offset.isSome) (right : n.offset.isSome) (name : String) :
    applyOperator operator name (.moment m) (.moment n) =
      .ok (decide (operator.Relates (m.instant : ℚ) (n.instant : ℚ))) := by
  have order : order? (.moment m) (.moment n) =
      some (.ok (some (compare (m.instant : ℚ) (n.instant : ℚ)))) := by
    have cast : compare (m.instant : ℚ) (n.instant : ℚ) = compare m.instant n.instant := by
      rw [← cmp_eq_compare, ← cmp_eq_compare]
      exact Int.cast_strictMono.cmp_map_eq m.instant n.instant
    rw [cast]
    simp [order?, Value.isNumber, orderMoments, left, right]
  have same : Value.same false (.moment m) (.moment n) =
      .ok (decide ((m.instant : ℚ) = n.instant)) := by
    rw [Value.same]
    · simp [Value.sameScalar, Value.asNumber?, Value.asText?, Value.sameMoment, left, right,
        beq_eq_decide]
    all_goals simp
  exact applyOperator_compared comparing order same name

section
variable {registry : Registry} {name : FieldName} {field : Field}
  {subject : Subject} {customer rule : Value} {i j : Int}

theorem evaluateLeaf_instants (resolved : registry.resolve (.ofFieldName name) = .ok field)
    (dated : field.type = .date) (found : field.raw? subject = some customer)
    (left : customer.Names i) (right : rule.Names j) {operator : Operator}
    (comparing : operator.kind ≠ .membership) :
    evaluateLeaf registry name operator rule subject =
      .ok (decide (operator.Relates (i : ℚ) (j : ℚ))) := by
  obtain ⟨m, brought, placed, rfl⟩ := left.normalize dated
  obtain ⟨n, brought', placed', rfl⟩ := right.normalize dated
  rw [evaluateLeaf_sides resolved found brought brought' comparing]
  exact applyOperator_moments comparing placed placed' name.display

end

/-- In a field of dates every comparison of what names an instant, on either side a moment with any
offset, a wall-clock time, a date or an ISO text, comes to what the two instants say. So where
moments or dates are compared, the text of either may stand for it, as long as an offset that is
not nothing is a second at least. -/
theorem matchesWritten_instants {registry : Registry} {name : FieldName} {field : Field}
    (resolved : registry.resolve (.ofFieldName name) = .ok field) (dated : field.type = .date)
    (store : ValueStore) {operator : Operator} (comparing : operator.kind ≠ .membership) :
    (∀ subject customer rule (i j : Int), field.raw? subject = some customer → customer.Names i →
      rule.Names j → matchesWritten registry store (.rule (.leaf name operator rule)) subject =
        .ok (decide (operator.Relates (i : ℚ) (j : ℚ)))) ∧
    (∀ subject customer rule text (i j : Int), field.raw? subject = some customer →
      customer.Names i → rule.Names j → text.Writes rule →
      matchesWritten registry store (.rule (.leaf name operator text)) subject =
        matchesWritten registry store (.rule (.leaf name operator rule)) subject) ∧
    (∀ subject other customer text rule (i j : Int), field.raw? subject = some customer →
      field.raw? other = some text → customer.Names i → text.Writes customer → rule.Names j →
      matchesWritten registry store (.rule (.leaf name operator rule)) other =
        matchesWritten registry store (.rule (.leaf name operator rule)) subject) := by
  have instants {subject customer rule} {i j : Int} (found : field.raw? subject = some customer)
      (left : customer.Names i) (right : rule.Names j) :
      matchesWritten registry store (.rule (.leaf name operator rule)) subject =
        .ok (decide (operator.Relates (i : ℚ) (j : ℚ))) := by
    rw [matchesWritten_built]
    simp only [exposed, right.exposed store, evaluate]
    exact evaluateLeaf_instants resolved dated found left right comparing
  refine ⟨fun subject customer rule i j found => instants found, ?_, ?_⟩
  · intro subject customer rule text i j found left right writes
    rw [instants found left right, instants found left (writes.names right)]
  · intro subject other customer text rule i j found found' left writes right
    rw [instants found left right, instants found' (writes.names left) right]

/-- The first day of 2000. -/
def newYear : Date := ⟨2000, 1, 1, by decide⟩

/-- One in the night of that day, an hour ahead of universal time. -/
def afterMidnight : Moment :=
  ⟨newYear, ⟨1, 0, 0, 0, by decide⟩, some ⟨3600000000, by decide⟩⟩

/-- Midnight a millionth of a second ahead of universal time. -/
def beforeMidnight : Moment := ⟨newYear, .midnight, some ⟨1, by decide⟩⟩

/-- The last visit in the standard registry. -/
def lastVisitField : Field :=
  ⟨"lastVisit", "last_visit", .date, "Date of the latest order"⟩

theorem resolve_lastVisit :
    Registry.standard.resolve (.ofFieldName (.word "lastVisit")) = .ok lastVisitField := rfl

/-- A visit on a date was at the moment that midnight is elsewhere, and at the text of it. -/
theorem newYear_at_afterMidnight :
    Registry.standard.resolve (.ofFieldName (.word "lastVisit")) = .ok lastVisitField ∧
    matchesWritten Registry.standard [] (.rule (.leaf (.word "lastVisit") .equal
      (.text (String.ofList (afterMidnight.toText 'T')))))
      (.mapping [(.text "lastVisit", .date newYear)]) = .ok true ∧
    matchesWritten Registry.standard [] (.rule (.leaf (.word "lastVisit") .equal
      (.moment afterMidnight)))
      (.mapping [(.text "lastVisit", .text (String.ofList (Moment.dateText newYear)))]) =
        .ok true := by
  have comparing : Operator.equal.kind ≠ .membership := by decide
  obtain ⟨compared, ruleText, customerText⟩ :=
    matchesWritten_instants resolve_lastVisit rfl [] comparing
  have legible : afterMidnight.IsLegible := by
    rintro offset ⟨⟩
    exact .inr (by decide)
  have same : (Moment.ofDate newYear).instant = afterMidnight.instant := by decide
  have direct : matchesWritten Registry.standard [] (.rule (.leaf (.word "lastVisit") .equal
      (.moment afterMidnight))) (.mapping [(.text "lastVisit", .date newYear)]) = .ok true := by
    rw [compared _ _ _ _ _ rfl (.date newYear) (.moment afterMidnight), same]
    exact congrArg Except.ok (decide_eq_true rfl)
  refine ⟨resolve_lastVisit, ?_, ?_⟩
  · rw [ruleText _ _ _ _ _ _ rfl (.date newYear) (.moment afterMidnight) (.moment legible), direct]
  · rw [customerText (.mapping [(.text "lastVisit", .date newYear)]) _ _ _ _ _ _ rfl rfl
      (.date newYear) (.date newYear) (.moment afterMidnight), direct]

/-- A visit at midnight was after a moment a millionth of a second earlier, but not after the text
of it: offsets of less than a second are lost from texts. -/
theorem newYear_after_beforeMidnight :
    matchesWritten Registry.standard [] (.rule (.leaf (.word "lastVisit") .greater
      (.moment beforeMidnight))) (.mapping [(.text "lastVisit", .date newYear)]) = .ok true ∧
    matchesWritten Registry.standard [] (.rule (.leaf (.word "lastVisit") .greater
      (.text (String.ofList (beforeMidnight.toText 'T')))))
      (.mapping [(.text "lastVisit", .date newYear)]) = .ok false := by
  have found : lastVisitField.raw? (.mapping [(.text "lastVisit", .date newYear)]) =
      some (.date newYear) := rfl
  have comparing : Operator.greater.kind ≠ .membership := by decide
  have earlier : (beforeMidnight.instant : ℚ) < (Moment.ofDate newYear).instant :=
    Int.cast_lt.mpr (by decide)
  have none : ¬ (beforeMidnight.reread.instant : ℚ) < (Moment.ofDate newYear).instant := by
    rw [Int.cast_lt]
    decide
  constructor
  · rw [matchesWritten_built]
    refine (evaluateLeaf_instants resolve_lastVisit rfl found (.date newYear)
      (.moment beforeMidnight) comparing).trans (congrArg Except.ok ?_)
    exact decide_eq_true earlier
  · rw [matchesWritten_built]
    refine (evaluateLeaf_instants resolve_lastVisit rfl found (.date newYear)
      (Value.names_toText beforeMidnight) comparing).trans (congrArg Except.ok ?_)
    exact decide_eq_false none

end Rule

end Outreach
