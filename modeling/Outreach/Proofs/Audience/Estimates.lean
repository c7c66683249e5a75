import Outreach.Audience.Estimate
import Outreach.Proofs.Outcome
import Outreach.Proofs.Rule.Evaluation

/-! Counting without a table. A list is counted as a source is that hands out the same customers:
with the same outcome, after drawing the same number of them. Cut into parts that are counted side
by side, the customers come to the same number, in whatever order the workers take their turns; and
where someone cannot be judged, the error is the first of one of the parts. -/

namespace Outreach.Audience

variable {registry : Registry} {rule : Rule} {answers : Subject → Rule.Answer}

/-- Whether the answer about a customer is yes. There may be no answer. -/
def isYes (answers : Subject → Rule.Answer) (subject : Subject) : Bool :=
  (answers subject).toOption.getD false

/-- There is an answer about each of these customers. -/
def AreJudged (answers : Subject → Rule.Answer) (subjects : List Subject) : Prop :=
  ∀ subject ∈ subjects, ∃ answer, answers subject = .ok answer

/-- The first of these customers about whom there is no answer comes after `before`, with this
error. -/
def FailsAfter (answers : Subject → Rule.Answer) (subjects before : List Subject)
    (e : EvaluationError) : Prop :=
  ∃ subject after, subjects = before ++ subject :: after ∧ AreJudged answers before ∧
    answers subject = .error e

theorem isYes_of_ok {subject : Subject} {answer : Bool} (judged : answers subject = .ok answer) :
    isYes answers subject = answer := by
  rw [isYes, judged]
  rfl

theorem areJudged_cons {subject : Subject} {rest : List Subject} :
    AreJudged answers (subject :: rest) ↔
      (∃ answer, answers subject = .ok answer) ∧ AreJudged answers rest :=
  List.forall_mem_cons

theorem FailsAfter.cons {subject : Subject} {rest before : List Subject} {e : EvaluationError}
    {answer : Bool} (judged : answers subject = .ok answer)
    (fails : FailsAfter answers rest before e) :
    FailsAfter answers (subject :: rest) (subject :: before) e := by
  obtain ⟨culprit, after, rfl, earlier, refused⟩ := fails
  exact ⟨culprit, after, rfl, areJudged_cons.mpr ⟨⟨answer, judged⟩, earlier⟩, refused⟩

/-- There are answers about all, or there is a first customer about whom there is none. -/
theorem judged_or_fails (answers : Subject → Rule.Answer) (subjects : List Subject) :
    AreJudged answers subjects ∨ ∃ before e, FailsAfter answers subjects before e := by
  induction subjects with
  | nil => exact .inl (List.forall_mem_nil _)
  | cons subject rest ih =>
    cases here : answers subject with
    | error e => exact .inr ⟨[], e, subject, rest, rfl, List.forall_mem_nil _, here⟩
    | ok answer =>
      rcases ih with judged | ⟨before, e, fails⟩
      · exact .inl (areJudged_cons.mpr ⟨⟨answer, here⟩, judged⟩)
      · exact .inr ⟨subject :: before, e, fails.cons here⟩

/-! ### Lists -/

theorem tallyFrom_cons {subject : Subject} {answer : Bool}
    (judged : rule.evaluate registry subject = .ok answer) (count drawn : Nat)
    (rest : List Subject) :
    tallyFrom registry rule count drawn (subject :: rest) =
      tallyFrom registry rule (if answer then count + 1 else count) (drawn + 1) rest := by
  rw [tallyFrom, judged]
  cases answer <;> rfl

/-- Customers who can all be judged are counted one after the other. -/
theorem tallyFrom_append {before : List Subject}
    (judged : AreJudged (Rule.evaluate registry · rule) before) (count drawn : Nat)
    (rest : List Subject) :
    tallyFrom registry rule count drawn (before ++ rest) =
      tallyFrom registry rule (count + before.countP (isYes (Rule.evaluate registry · rule)))
        (drawn + before.length) rest := by
  induction before generalizing count drawn with
  | nil => rfl
  | cons subject before ih =>
    obtain ⟨⟨answer, here⟩, later⟩ := areJudged_cons.mp judged
    rw [List.cons_append, tallyFrom_cons here, ih later, List.countP_cons, isYes_of_ok here,
      List.length_cons]
    congr 1
    · cases answer <;> simp
      omega
    · omega

theorem tally_of_judged {subjects : List Subject}
    (judged : AreJudged (Rule.evaluate registry · rule) subjects) :
    tally registry rule subjects =
      ⟨.ok (subjects.countP (isYes (Rule.evaluate registry · rule))), subjects.length⟩ := by
  have counted := tallyFrom_append judged 0 0 []
  rw [List.append_nil, Nat.zero_add, Nat.zero_add] at counted
  exact counted

theorem tally_of_fails {subjects before : List Subject} {e : EvaluationError}
    (fails : FailsAfter (Rule.evaluate registry · rule) subjects before e) :
    tally registry rule subjects = ⟨.error e, before.length + 1⟩ := by
  obtain ⟨subject, after, rfl, judged, refused⟩ := fails
  rw [tally, tallyFrom_append judged, tallyFrom]
  simp only [refused, Nat.zero_add]

/-! ### Sources -/

/-- A source, in a state from which it gives out these customers and then no more. -/
inductive GivesOut {σ : Type} (next : σ → Option (Subject × σ)) : σ → List Subject → Prop where
  | nothing {state : σ} (ended : next state = none) : GivesOut next state []
  | one {state later : σ} {subject : Subject} {rest : List Subject}
      (handed : next state = some (subject, later)) (others : GivesOut next later rest) :
      GivesOut next state (subject :: rest)

theorem givesOut_ofList (subjects : List Subject) :
    GivesOut (Source.ofList subjects).next (Source.ofList subjects).state subjects := by
  induction subjects with
  | nil => exact .nothing rfl
  | cons subject rest ih => exact .one rfl ih

/-- A source is counted as the list of those whom it gives out. -/
theorem drain_eq_tallyFrom {σ : Type} {next : σ → Option (Subject × σ)} {state : σ}
    {subjects : List Subject} (hands : GivesOut next state subjects) {limit : Nat}
    (enough : subjects.length ≤ limit) (count drawn : Nat) :
    drain registry rule next limit state count drawn =
      tallyFrom registry rule count drawn subjects := by
  induction hands generalizing limit count drawn with
  | nothing ended =>
    cases limit with
    | zero => rfl
    | succ limit => rw [drain, ended, tallyFrom]
  | @one state later subject rest handed others ih =>
    cases limit with
    | zero => simp at enough
    | succ limit =>
      have room : rest.length ≤ limit := by simpa using enough
      rw [drain, handed]
      dsimp only
      cases judged : rule.evaluate registry subject with
      | error e => rw [tallyFrom, judged]
      | ok answer => rw [tallyFrom_cons judged, ← ih room]

/-! ### Parts side by side -/

/-- What a worker has counted of its part, and whom it has not come to yet. -/
structure Share where
  count : Nat
  rest : List Subject

/-- The shares of workers who have not begun. -/
def sharesOf (parts : List (List Subject)) : List Share := parts.map (Share.mk 0)

/-- The outcomes to which workers can come who count their shares side by side, one customer at a
time and whoever's turn it is. A worker at the end of its share hands in its count, which is added
to the total; the first who fails ends the work of all. -/
inductive SideBySide (answers : Subject → Rule.Answer) :
    List Share → Nat → Except EvaluationError Nat → Prop where
  | ended {total : Nat} : SideBySide answers [] total (.ok total)
  | handsIn {before after : List Share} {count total : Nat} {outcome : Except EvaluationError Nat}
      (others : SideBySide answers (before ++ after) (total + count) outcome) :
      SideBySide answers (before ++ ⟨count, []⟩ :: after) total outcome
  | counts {before after : List Share} {count total : Nat} {subject : Subject}
      {rest : List Subject} {answer : Bool} {outcome : Except EvaluationError Nat}
      (judged : answers subject = .ok answer)
      (goesOn : SideBySide answers
        (before ++ ⟨if answer then count + 1 else count, rest⟩ :: after) total outcome) :
      SideBySide answers (before ++ ⟨count, subject :: rest⟩ :: after) total outcome
  | fails {before after : List Share} {count total : Nat} {subject : Subject}
      {rest : List Subject} {e : EvaluationError} (refused : answers subject = .error e) :
      SideBySide answers (before ++ ⟨count, subject :: rest⟩ :: after) total (.error e)

/-- What a share comes to where everybody can be judged. -/
def Share.whole (answers : Subject → Rule.Answer) (share : Share) : Nat :=
  share.count + share.rest.countP (isYes answers)

/-- Whatever the order of turns, workers come to the number of all who match, or to the first error
of one of the shares. -/
theorem SideBySide.outcome_cases {shares : List Share} {total : Nat}
    {outcome : Except EvaluationError Nat} (worked : SideBySide answers shares total outcome) :
    ((∀ share ∈ shares, AreJudged answers share.rest) ∧
      outcome = .ok (total + (shares.map (Share.whole answers)).sum)) ∨
    ∃ share ∈ shares, ∃ before e, FailsAfter answers share.rest before e ∧
      outcome = .error e := by
  induction worked with
  | ended => exact .inl ⟨List.forall_mem_nil _, rfl⟩
  | @handsIn before after count total outcome others ih =>
    rcases ih with ⟨judged, same⟩ | ⟨share, member, fails⟩
    · left
      rw [List.forall_mem_append] at judged
      refine ⟨List.forall_mem_append.mpr ⟨judged.1, List.forall_mem_cons.mpr
        ⟨List.forall_mem_nil _, judged.2⟩⟩, ?_⟩
      rw [same]
      simp only [List.map_append, List.map_cons, List.sum_append, List.sum_cons, Share.whole,
        List.countP_nil]
      congr 1
      omega
    · refine .inr ⟨share, ?_, fails⟩
      rw [List.mem_append] at member ⊢
      exact member.imp_right (List.mem_cons_of_mem _)
  | @counts before after count total subject rest answer outcome judged goesOn ih =>
    rcases ih with ⟨all, same⟩ | ⟨share, member, first, e, fails, same⟩
    · left
      rw [List.forall_mem_append, List.forall_mem_cons] at all ⊢
      obtain ⟨earlier, this, later⟩ := all
      refine ⟨⟨earlier, areJudged_cons.mpr ⟨⟨answer, judged⟩, this⟩, later⟩, ?_⟩
      rw [same]
      simp only [List.map_append, List.map_cons, List.sum_append, List.sum_cons, Share.whole,
        List.countP_cons, isYes_of_ok judged]
      congr 1
      cases answer <;> simp
      omega
    -- A share that has got further fails where the whole share fails.
    · rcases List.mem_append.mp member with earlier | here
      · exact .inr ⟨share, List.mem_append_left _ earlier, first, e, fails, same⟩
      · rcases List.mem_cons.mp here with rfl | later
        · exact .inr ⟨⟨count, subject :: rest⟩, by simp, subject :: first, e, fails.cons judged,
            same⟩
        · exact .inr ⟨share, by simp [later], first, e, fails, same⟩
  | @fails before after count total subject rest e refused =>
    exact .inr ⟨⟨count, subject :: rest⟩, by simp, [], e,
      ⟨subject, rest, rfl, List.forall_mem_nil _, refused⟩, rfl⟩

/-- One share is worked off before the others are begun. -/
theorem sideBySide_share {shares : List Share} {total : Nat}
    {outcome : Except EvaluationError Nat} {subjects : List Subject} {count : Nat} (drawn : Nat)
    (others : ∀ whole, (tallyFrom registry rule count drawn subjects).outcome = .ok whole →
      SideBySide (Rule.evaluate registry · rule) shares (total + whole) outcome)
    (fails : ∀ e, (tallyFrom registry rule count drawn subjects).outcome = .error e →
      outcome = .error e) :
    SideBySide (Rule.evaluate registry · rule) (⟨count, subjects⟩ :: shares) total outcome := by
  induction subjects generalizing count drawn with
  | nil => exact @SideBySide.handsIn _ [] shares _ _ _ (others count rfl)
  | cons subject rest ih =>
    cases judged : rule.evaluate registry subject with
    | error e =>
      rw [fails e (by rw [tallyFrom, judged])]
      exact @SideBySide.fails _ [] shares _ _ _ _ _ judged
    | ok answer =>
      rw [tallyFrom_cons judged] at others fails
      exact @SideBySide.counts _ [] shares _ _ _ _ _ _ judged (ih _ others fails)

/-- To count the parts one after the other is one order of turns. -/
theorem sideBySide_sumOutcomes (parts : List (List Subject)) (total : Nat) :
    SideBySide (Rule.evaluate registry · rule) (sharesOf parts) total
      ((sumOutcomes (parts.map fun part => (tally registry rule part).outcome)).map
        (total + ·)) := by
  induction parts generalizing total with
  | nil => exact .ended
  | cons part parts ih =>
    have first : sharesOf (part :: parts) = ⟨0, part⟩ :: sharesOf parts := rfl
    rw [first]
    refine sideBySide_share 0 (fun whole counted => ?_) fun e failed => ?_
    · have later := ih (total + whole)
      rw [List.map_cons, tally, counted, sumOutcomes]
      cases others : sumOutcomes (parts.map fun part => (tally registry rule part).outcome) with
      | error e =>
        rw [others] at later
        exact later
      | ok sum =>
        rw [others] at later
        show SideBySide _ _ _ (.ok (total + (whole + sum)))
        rw [← Nat.add_assoc]
        exact later
    · rw [List.map_cons, tally, failed]
      rfl

theorem sideBySide_estimateParts {store : ValueStore} {written : Value}
    (read : Rule.parseShared store written Rule.rootPath = .ok rule)
    (parts : List (List Subject)) :
    SideBySide (Rule.evaluate registry · rule) (sharesOf parts) 0
      (estimateParts registry store written parts) := by
  have inOrder := @sideBySide_sumOutcomes registry rule parts 0
  simp only [estimateParts, read]
  cases summed : sumOutcomes (parts.map fun part => (tally registry rule part).outcome) with
  | error e =>
    rw [summed] at inOrder
    exact inOrder
  | ok count =>
    rw [summed] at inOrder
    simpa only [Except.map, Nat.zero_add] using inOrder

theorem whole_sharesOf (parts : List (List Subject)) :
    ((sharesOf parts).map (Share.whole answers)).sum = parts.flatten.countP (isYes answers) := by
  rw [List.countP_flatten, sharesOf, List.map_map]
  congr 2
  funext part
  exact Nat.zero_add _

/-! ### All ways at once -/

/-- A list, a source that hands out its customers, and the list with the fields that every customer
has are counted alike. -/
structure CountAlike (registry : Registry) (store : ValueStore) (written : Value)
    (subjects : List Subject) (result : Tally) : Prop where
  listed : estimate registry store written subjects = result
  handedOut : ∀ {σ : Type} (source : Source σ) (limit : Nat),
    GivesOut source.next source.state subjects → subjects.length ≤ limit →
    estimateFrom registry store written limit source = result
  standard : registry = Registry.standard → estimateStandard store written subjects = result

/-- What counting side by side came to is the number of all who match if there are answers about
all, and an error just if there is someone about whom there is none: the first error of a part. -/
structure IsCount (answers : Subject → Rule.Answer) (subjects : List Subject)
    (parts : List (List Subject)) (outcome : Except EvaluationError Nat) : Prop where
  counted : AreJudged answers subjects → outcome = .ok (subjects.countP (isYes answers))
  failed_iff : (∃ e, outcome = .error e) ↔ ∃ subject ∈ subjects, ∃ e, answers subject = .error e
  error : ∀ e, outcome = .error e → ∃ part ∈ parts, ∃ before, FailsAfter answers part before e

theorem countAlike_of_read {store : ValueStore} {written : Value} {subjects : List Subject}
    {result : Tally} (read : Rule.parseShared store written Rule.rootPath = .ok rule)
    (counted : tally registry rule subjects = result) :
    CountAlike registry store written subjects result where
  listed := by rw [estimate, read, ← counted]
  handedOut source limit hands enough := by
    rw [estimateFrom, read, ← counted]
    exact drain_eq_tallyFrom hands enough 0 0
  standard same := by
    subst same
    rw [estimateStandard, estimate, read, ← counted]

theorem countAlike_of_unread {store : ValueStore} {written : Value} {e : RuleError}
    (unread : Rule.parseShared store written Rule.rootPath = .error e) (subjects : List Subject) :
    CountAlike registry store written subjects ⟨.error (.rule e), 0⟩ where
  listed := by rw [estimate, unread]
  handedOut source limit hands enough := by rw [estimateFrom, unread]
  standard same := by rw [estimateStandard, estimate, unread]

theorem SideBySide.isCount {subjects : List Subject} {parts : List (List Subject)}
    (cut : parts.flatten.Perm subjects) {outcome : Except EvaluationError Nat}
    (worked : SideBySide answers (sharesOf parts) 0 outcome) :
    IsCount answers subjects parts outcome := by
  have within {part : List Subject} (member : part ∈ parts) {subject : Subject}
      (among : subject ∈ part) : subject ∈ subjects :=
    cut.mem_iff.mp (List.mem_flatten_of_mem member among)
  rcases worked.outcome_cases with ⟨judged, rfl⟩ | ⟨share, member, before, e, fails, rfl⟩
  · have all : AreJudged answers subjects := by
      intro subject among
      obtain ⟨part, member, inside⟩ := List.mem_flatten.mp (cut.mem_iff.mpr among)
      exact judged ⟨0, part⟩ (List.mem_map_of_mem member) subject inside
    rw [whole_sharesOf, cut.countP_eq, Nat.zero_add]
    refine ⟨fun _ => rfl, iff_of_false (by simp) ?_, fun e failed => by cases failed⟩
    rintro ⟨subject, among, e, refused⟩
    obtain ⟨answer, here⟩ := all subject among
    cases here.symm.trans refused
  · obtain ⟨part, isPart, rfl⟩ := List.mem_map.mp member
    obtain ⟨culprit, after, split, -, refused⟩ := id fails
    have culpritIn : culprit ∈ subjects := by
      have split : part = before ++ culprit :: after := split
      exact within isPart (by simp [split])
    refine ⟨fun judged => ?_, iff_of_true ⟨e, rfl⟩ ⟨culprit, culpritIn, e, refused⟩, ?_⟩
    · obtain ⟨answer, here⟩ := judged culprit culpritIn
      cases here.symm.trans refused
    · rintro _ ⟨⟩
      exact ⟨part, isPart, before, fails⟩

/-- All ways of counting customers without a table agree. A rule that cannot be read is an error
before any customer is drawn. If the rule has an answer about everyone, the count is the number of
those whom it matches, and all were drawn; else it is the error of the first about whom there is no
answer, and that one was the last who was drawn. However the customers are cut into parts, and in
whatever order workers take their turns at these, what they come to is that count or the first error
of one of the parts; to count the parts one after the other is one of these orders. -/
theorem estimates_agree (registry : Registry) (store : ValueStore) (written : Value)
    (subjects : List Subject) :
    (∀ e, Rule.parseShared store written Rule.rootPath = .error e →
      CountAlike registry store written subjects ⟨.error (.rule e), 0⟩ ∧
      ∀ parts, estimateParts registry store written parts = .error (.rule e)) ∧
    ∀ rule, Rule.parseShared store written Rule.rootPath = .ok rule →
      (AreJudged (Rule.matchesWritten registry store written) subjects ∧
          CountAlike registry store written subjects
            ⟨.ok (subjects.countP (isYes (Rule.matchesWritten registry store written))),
              subjects.length⟩ ∨
        ∃ before e, FailsAfter (Rule.matchesWritten registry store written) subjects before e ∧
          CountAlike registry store written subjects ⟨.error e, before.length + 1⟩) ∧
      ∀ parts, parts.flatten.Perm subjects →
        SideBySide (Rule.evaluate registry · rule) (sharesOf parts) 0
          (estimateParts registry store written parts) ∧
        ∀ outcome, SideBySide (Rule.evaluate registry · rule) (sharesOf parts) 0 outcome →
          IsCount (Rule.matchesWritten registry store written) subjects parts outcome := by
  refine ⟨fun e unread => ⟨countAlike_of_unread unread subjects, fun parts => ?_⟩,
    fun rule read => ?_⟩
  · rw [estimateParts, unread]
  · have same : Rule.matchesWritten registry store written = (Rule.evaluate registry · rule) :=
      funext (Rule.matchesWritten_of_ok read registry)
    rw [same]
    constructor
    · rcases judged_or_fails (Rule.evaluate registry · rule) subjects with
        judged | ⟨before, e, fails⟩
      · exact .inl ⟨judged, countAlike_of_read read (tally_of_judged judged)⟩
      · exact .inr ⟨before, e, fails, countAlike_of_read read (tally_of_fails fails)⟩
    · intro parts cut
      exact ⟨sideBySide_estimateParts read parts, fun outcome worked => worked.isCount cut⟩

/-! ### A customer whose visits are no number -/

namespace Sample

/-- More than one visit. -/
def frequent : Value := .record [
  ("field", .text "visits"), ("operator", .text ">"), ("value", .int 1)]

def visitor (visits : Value) : Subject := .mapping [(.text "visits", visits)]

def visitors : List Subject := [visitor (.int 2), visitor (.text "many"), visitor (.int 3)]

/-- The visitors in two parts and an empty one. -/
def visitorParts : List (List Subject) :=
  [[visitor (.int 3)], [], [visitor (.int 2), visitor (.text "many")]]

end Sample

open Sample in
/-- The second of three customers ends the count, and the third is not drawn. Cut into parts, the
customers come to the same error whoever is ahead. -/
theorem visitors_counted : ∃ e,
    Rule.parseShared [] frequent Rule.rootPath =
      .ok (.leaf (.word "visits") .greater (.int 1)) ∧
    Rule.matchesWritten Registry.standard [] frequent (visitor (.text "many")) = .error e ∧
    CountAlike Registry.standard [] frequent visitors ⟨.error e, 2⟩ ∧
    GivesOut (Source.ofList visitors).next (Source.ofList visitors).state visitors ∧
    visitorParts.flatten.Perm visitors ∧
    ∀ outcome, SideBySide
      (Rule.evaluate Registry.standard · (.leaf (.word "visits") .greater (.int 1)))
      (sharesOf visitorParts) 0 outcome → outcome = .error e := by
  have read : Rule.parseShared [] frequent Rule.rootPath =
      .ok (.leaf (.word "visits") .greater (.int 1)) := rfl
  obtain ⟨e, refused⟩ : ∃ e, Rule.matchesWritten Registry.standard [] frequent
      (visitor (.text "many")) = .error e := ⟨_, rfl⟩
  have first : Rule.matchesWritten Registry.standard [] frequent (visitor (.int 2)) = .ok true :=
    toOption_eq_some_iff.mp (by decide +kernel)
  have last : Rule.matchesWritten Registry.standard [] frequent (visitor (.int 3)) = .ok true :=
    toOption_eq_some_iff.mp (by decide +kernel)
  have cut : visitorParts.flatten.Perm visitors := by
    show ([visitor (.int 3)] ++ [visitor (.int 2), visitor (.text "many")]).Perm _
    exact List.perm_append_comm
  obtain ⟨ways, sideBySide⟩ := (estimates_agree Registry.standard [] frequent visitors).2 _ read
  refine ⟨e, read, refused, ?_, givesOut_ofList visitors, cut, fun outcome worked => ?_⟩
  · rcases ways with
      ⟨judged, -⟩ | ⟨before, failure, ⟨subject, after, split, judged, failed⟩, counted⟩
    · obtain ⟨answer, here⟩ := judged (visitor (.text "many")) (by simp [visitors])
      cases here.symm.trans refused
    · match before, split with
      | [], split =>
        cases split
        cases first.symm.trans failed
      | [_], split =>
        cases split
        cases refused.symm.trans failed
        exact counted
      | _ :: _ :: _, split =>
        simp only [visitors, List.cons_append, List.cons.injEq] at split
        obtain ⟨-, rfl, -⟩ := split
        obtain ⟨answer, here⟩ := judged (visitor (.text "many")) (by simp)
        cases here.symm.trans refused
  · have counts := (sideBySide visitorParts cut).2 outcome worked
    obtain ⟨failure, rfl⟩ := counts.failed_iff.mpr ⟨_, by simp [visitors], e, refused⟩
    obtain ⟨part, member, before, subject, after, split, -, failed⟩ := counts.error failure rfl
    have among : subject ∈ visitors := by
      refine cut.mem_iff.mp (List.mem_flatten_of_mem member ?_)
      simp [split]
    simp only [visitors, List.mem_cons, List.not_mem_nil, or_false] at among
    rcases among with rfl | rfl | rfl
    · cases first.symm.trans failed
    · cases refused.symm.trans failed
      rfl
    · cases last.symm.trans failed

end Outreach.Audience
