import HostAudit.Proofs.Fallback
import HostAudit.Proofs.Protocol

/-
This file describes how the items of a check come to a verdict, and what keeps them from one. A
check passes exactly when its items come to a verdict and there is evidence for it.
-/

namespace HostAudit

theorem append_ne_empty {left : String} (right : String) (nonempty : left ≠ "") :
    left ++ right ≠ "" :=
  fun empty => nonempty (String.append_eq_empty_iff.mp empty).1

/-- Every fault has a message. -/
theorem Lookup.Fault.message_ne_empty (fault : Lookup.Fault) : fault.message ≠ "" := by
  cases fault with
  | malformedPath malformed =>
      exact append_ne_empty _ (append_ne_empty _ (append_ne_empty _ (by decide)))
  | oversized locator =>
      exact append_ne_empty _ (append_ne_empty _ (append_ne_empty _ (append_ne_empty _
        (by decide))))

/-- Every error has a message. -/
theorem EvaluationError.message_ne_empty (error : EvaluationError) : error.message ≠ "" := by
  cases error with
  | unknownCombinator name => exact append_ne_empty _ (by decide)
  | lookup fault => exact fault.message_ne_empty

namespace State

/-- A failure is no pass. -/
theorem failing_ne_pass (scored : Bool) : State.failing scored ≠ .pass := by
  cases scored <;> decide

/-- A failure is no information. -/
theorem failing_ne_info (scored : Bool) : State.failing scored ≠ .info := by
  cases scored <;> decide

/-- A failure counts as one exactly if the check is scored. -/
theorem failing_eq_fail {scored : Bool} : State.failing scored = .fail ↔ scored = true := by
  cases scored <;> decide

end State

namespace Combinator

/-- There are words for both ways of combining, and for no other. -/
theorem joiner_eq_ok {combinator : Combinator} {joiner : String} :
    combinator.joiner = .ok joiner ↔
      combinator = all ∧ joiner = " AND " ∨ combinator = any ∧ joiner = " OR " := by
  cases combinator <;> simp [Combinator.joiner, eq_comm]

/-- A combinator that is not known by its name is a fault. -/
def fault? : Combinator → Option EvaluationError
  | unrecognized name => some (.unknownCombinator name)
  | _ => none

/-- A combinator without a word is a fault. -/
theorem joiner_eq_error {combinator : Combinator} {error : EvaluationError} :
    combinator.joiner = .error error ↔ combinator.fault? = some error := by
  cases combinator <;> simp [Combinator.joiner, fault?]

/-- A combinator with a word is no fault. -/
theorem fault?_of_joiner {combinator : Combinator} {joiner : String}
    (known : combinator.joiner = .ok joiner) : combinator.fault? = none := by
  cases combinator <;> simp [Combinator.joiner, fault?] at known ⊢

/-- Combining fails exactly if there is no word for it. -/
theorem combine_eq_error {combinator : Combinator} {outcomes : List TestOutcome}
    {error : EvaluationError} :
    combinator.combine outcomes = .error error ↔ combinator.joiner = .error error := by
  simp only [combine, bind_eq_error, pure_ne_error, and_false, exists_false, or_false]

/-- What outcomes combine to, with `joiner` between their conditions in words. -/
def combined (combinator : Combinator) (joiner : String) (outcomes : List TestOutcome) :
    TestOutcome where
  matched := combinator.holds outcomes
  found := (outcomes.headD .empty).found
  actual := (outcomes.headD .empty).actual
  expected := Text.joined joiner (outcomes.map (·.expected))

/-- With a word, outcomes are combined. -/
theorem combine_of_joiner {combinator : Combinator} {joiner : String}
    (known : combinator.joiner = .ok joiner) (outcomes : List TestOutcome) :
    combinator.combine outcomes = .ok (combinator.combined joiner outcomes) := by
  rw [combine, known]
  rfl

end Combinator

/-- An item with what it comes to and the source that it was decided on. -/
abbrev Decision := TestItem × TestOutcome × Source

namespace Check

variable {check : Check} {outputs : Outputs} {tests : TestSet} {joiner : String}
  {decisions : List Decision}

/-- The items of a check come to a verdict: its definition alone decides nothing, each item is
decided on some source, and it is known how to combine them. -/
structure Concludes (check : Check) (outputs : Outputs) (tests : TestSet) (joiner : String)
    (decisions : List Decision) : Prop where
  undecided : check.decided? = none
  given : check.tests = some tests
  items : decisions.map (·.1) = tests.items
  resolved : ∀ decision ∈ decisions, check.resolve outputs decision.1 = .ok decision.2
  known : tests.combinator.joiner = .ok joiner

/-- The outcome of items that have come to a verdict. -/
def concluded (check : Check) (tests : TestSet) (joiner : String) (decisions : List Decision) :
    CheckOutcome :=
  let combined := tests.combinator.combined joiner (decisions.map (·.2.1))
  ⟨if combined.matched then .pass else .failing check.scored, "", combined.actual,
    combined.expected, decisions.map (·.2.2)⟩

/-- An item that cannot be resolved is a fault. -/
def itemFault? (check : Check) (outputs : Outputs) (item : TestItem) : Option EvaluationError :=
  match check.resolve outputs item with
  | .ok _ => none
  | .error fault => some (.lookup fault)

/-- What keeps the items of a check from a verdict: the first item that cannot be resolved, or else
their combinator. -/
def fault? (check : Check) (outputs : Outputs) : Option EvaluationError :=
  (check.items.findSome? (check.itemFault? outputs)).or
    (check.tests.bind fun tests => tests.combinator.fault?)

/-- A check is left to its tests exactly if it has any and is not marked. -/
theorem decided?_eq_none :
    check.decided? = none ↔
      check.items ≠ [] ∧ check.mark ≠ some .skip ∧ check.mark ≠ some .manual := by
  rw [decided?]
  split
  · rename_i untested
    simp [items, untested.2.2]
  split
  · simp [*]
  split
  · simp [*]
  split
  · simp_all
  · simp_all

/-- The items of a check are those of its tests. -/
theorem items_of_tests (given : check.tests = some tests) : check.items = tests.items := by
  rw [items, given]
  rfl

/-- A check with items has tests. -/
theorem tests_of_items_ne_nil (nonempty : check.items ≠ []) :
    ∃ tests, check.tests = some tests := by
  cases given : check.tests with
  | none => simp [items, given] at nonempty
  | some tests => exact ⟨tests, rfl⟩

/-- No item is a fault if each can be resolved. -/
theorem findSome?_itemFault?_eq_none
    (resolved : ∀ decision ∈ decisions, check.resolve outputs decision.1 = .ok decision.2) :
    (decisions.map (·.1)).findSome? (check.itemFault? outputs) = none := by
  rw [List.findSome?_eq_none_iff]
  intro item member
  obtain ⟨decision, inside, rfl⟩ := List.mem_map.mp member
  rw [itemFault?, resolved decision inside]

/-- A check that concludes has no fault. -/
theorem Concludes.fault?_eq_none (concludes : check.Concludes outputs tests joiner decisions) :
    check.fault? outputs = none := by
  rw [fault?, items_of_tests concludes.given, ← concludes.items,
    findSome?_itemFault?_eq_none concludes.resolved, Option.none_or, concludes.given]
  exact Combinator.fault?_of_joiner concludes.known

/-- A check that concludes is judged by its decisions. -/
theorem Concludes.judge (concludes : check.Concludes outputs tests joiner decisions) :
    check.judge outputs = check.concluded tests joiner decisions := by
  have resolved : tests.items.mapM (check.resolve outputs) = .ok (decisions.map (·.2)) :=
    mapM_eq_ok.mpr ⟨decisions, concludes.items, rfl, concludes.resolved⟩
  have verdict : check.verdict tests outputs =
      .ok (tests.combinator.combined joiner (decisions.map (·.2.1)), decisions.map (·.2.2)) := by
    simp only [Check.verdict, bind_eq_ok, mapError_eq_ok, pure_eq_ok]
    refine ⟨_, resolved, _, Combinator.combine_of_joiner concludes.known _, ?_⟩
    simp only [List.map_map, Function.comp_def]
  simp only [Check.judge, concludes.given, verdict, concluded]

/-- A check that cannot conclude fails with the message of the error. -/
theorem judge_of_error {error : EvaluationError} (given : check.tests = some tests)
    (failed : check.verdict tests outputs = .error error) :
    check.judge outputs = check.failing error.message := by
  simp only [judge, given, failed]

/-- A check that its definition leaves open has a fault or comes to a verdict. -/
theorem judge_cases (undecided : check.decided? = none) (outputs : Outputs) :
    (∃ fault, check.fault? outputs = some fault ∧
      check.judge outputs = check.failing fault.message) ∨
    ∃ tests joiner decisions, check.Concludes outputs tests joiner decisions := by
  obtain ⟨tests, given⟩ := tests_of_items_ne_nil (decided?_eq_none.mp undecided).1
  -- An item that cannot be resolved comes before an unknown combinator.
  cases answered : tests.items.mapM (check.resolve outputs) with
  | error fault =>
      refine .inl ⟨.lookup fault, ?_, judge_of_error given ?_⟩
      · obtain ⟨decisions, item, after, items, resolved, failed⟩ := mapM_eq_error.mp answered
        rw [fault?, items_of_tests given, items, List.findSome?_append,
          findSome?_itemFault?_eq_none resolved]
        simp [itemFault?, failed]
      · simp [verdict, answered]
  | ok answers =>
      obtain ⟨decisions, items, rfl, resolved⟩ := mapM_eq_ok.mp answered
      cases known : tests.combinator.joiner with
      | ok joiner => exact .inr ⟨tests, joiner, decisions, undecided, given, items, resolved, known⟩
      | error error =>
          refine .inl ⟨error, ?_, judge_of_error given ?_⟩
          · rw [fault?, items_of_tests given, ← items, findSome?_itemFault?_eq_none resolved,
              Option.none_or, given]
            exact Combinator.joiner_eq_error.mp known
          · simp only [verdict, bind_eq_error, mapError_eq_ok]
            exact .inr ⟨_, answered, .inl (Combinator.combine_eq_error.mpr known)⟩

/-- A check is decided for want of tests, by its mark, or for want of items, in this order. -/
theorem decided?_cases {outcome : CheckOutcome} (decided : check.decided? = some outcome) :
    (check.scored = true ∧ check.mark = none ∧ check.tests = none) ∧
        outcome = .ofReason .warn "There are no tests" ∨
      check.mark = some .skip ∧ outcome = .ofReason .info "Test marked as skip" ∨
      check.mark = some .manual ∧ outcome = .ofReason .warn "Test marked as a manual test" ∨
      (¬ (check.scored = true ∧ check.mark = none ∧ check.tests = none) ∧
        check.mark ≠ some .skip ∧ check.mark ≠ some .manual) ∧
        outcome = check.failing "No tests defined" := by
  rw [decided?] at decided
  split at decided
  · exact .inl ⟨‹_›, (Option.some.inj decided).symm⟩
  split at decided
  · exact .inr (.inl ⟨‹_›, (Option.some.inj decided).symm⟩)
  split at decided
  · exact .inr (.inr (.inl ⟨‹_›, (Option.some.inj decided).symm⟩))
  split at decided
  · exact .inr (.inr (.inr ⟨⟨‹_›, ‹_›, ‹_›⟩, (Option.some.inj decided).symm⟩))
  · cases decided

/-- An outcome that the definition of a check decides has a reason, and is no pass. -/
theorem not_pass_of_decided {outcome : CheckOutcome} (decided : check.decided? = some outcome) :
    outcome.state ≠ .pass ∧ outcome.reason ≠ "" := by
  rcases decided?_cases decided with ⟨-, rfl⟩ | ⟨-, rfl⟩ | ⟨-, rfl⟩ | ⟨-, rfl⟩
  · exact ⟨by decide, by decide⟩
  · exact ⟨by decide, by decide⟩
  · exact ⟨by decide, by decide⟩
  · exact ⟨State.failing_ne_pass check.scored, (by decide : "No tests defined" ≠ "")⟩

/-- A check that is not decided is judged. -/
theorem evaluate_of_undecided (undecided : check.decided? = none) (outputs : Outputs) :
    check.evaluate outputs = check.judge outputs := by
  rw [evaluate, undecided, Option.getD_none]

/-- A check that concludes comes to its conclusion. -/
theorem Concludes.evaluate (concludes : check.Concludes outputs tests joiner decisions) :
    check.evaluate outputs = check.concluded tests joiner decisions := by
  rw [evaluate_of_undecided concludes.undecided, concludes.judge]

/-- A check is decided by its definition, or has a fault, or comes to a verdict. -/
theorem evaluate_cases (check : Check) (outputs : Outputs) :
    (∃ outcome, check.decided? = some outcome ∧ check.evaluate outputs = outcome) ∨
    (∃ fault, check.decided? = none ∧ check.fault? outputs = some fault ∧
      check.evaluate outputs = check.failing fault.message) ∨
    ∃ tests joiner decisions, check.Concludes outputs tests joiner decisions := by
  cases decided : check.decided? with
  | some outcome => exact .inl ⟨outcome, rfl, by rw [evaluate, decided, Option.getD_some]⟩
  | none =>
      rcases judge_cases decided outputs with ⟨fault, faulty, judged⟩ | concludes
      · exact .inr (.inl ⟨fault, rfl, faulty, by rw [evaluate_of_undecided decided, judged]⟩)
      · exact .inr (.inr concludes)

/-- The reason is empty exactly when the items come to a verdict. -/
theorem evaluate_reason_eq_empty :
    (check.evaluate outputs).reason = "" ↔
      ∃ tests joiner decisions, check.Concludes outputs tests joiner decisions := by
  constructor
  · intro silent
    rcases check.evaluate_cases outputs with
      ⟨outcome, decided, rfl⟩ | ⟨fault, -, -, failed⟩ | concludes
    · exact absurd silent (not_pass_of_decided decided).2
    · rw [failed] at silent
      exact absurd silent fault.message_ne_empty
    · exact concludes
  · rintro ⟨tests, joiner, decisions, concludes⟩
    rw [concludes.evaluate]
    rfl

/-- A check that passes gives no reason. -/
theorem reason_of_pass (passes : (check.evaluate outputs).state = .pass) :
    (check.evaluate outputs).reason = "" := by
  rcases check.evaluate_cases outputs with
    ⟨outcome, decided, rfl⟩ | ⟨fault, -, -, failed⟩ | concludes
  · exact absurd passes (not_pass_of_decided decided).1
  · rw [failed] at passes
    exact absurd passes (State.failing_ne_pass check.scored)
  · exact evaluate_reason_eq_empty.mpr concludes

/-- A check that concludes passes exactly if its combinator holds of the outcomes. -/
theorem Concludes.pass_iff (concludes : check.Concludes outputs tests joiner decisions) :
    (check.evaluate outputs).state = .pass ↔
      tests.combinator.holds (decisions.map (·.2.1)) = true := by
  rw [concludes.evaluate]
  cases holds : tests.combinator.holds (decisions.map (·.2.1)) <;>
    simp [concluded, Combinator.combined, holds, State.failing_ne_pass]

/-- There is evidence for a check: for all of its items, or for one of them if one is enough, each
on the source that is recorded for it. -/
def Backed (check : Check) (outputs : Outputs) (sources : List Source) : Prop :=
  ∃ tests, check.tests = some tests ∧ tests.items ≠ [] ∧ sources.length = tests.items.length ∧
    (tests.combinator = .all ∧ (∀ tried ∈ tests.items.zip sources,
        tried.1.Witnessed check.multipleValues outputs tried.2) ∨
      tests.combinator = .any ∧ ∃ tried ∈ tests.items.zip sources,
        tried.1.Witnessed check.multipleValues outputs tried.2)

/-- The combinator holds exactly if the sources back it. -/
theorem Concludes.holds_iff (concludes : check.Concludes outputs tests joiner decisions) :
    tests.combinator.holds (decisions.map (·.2.1)) = true ↔
      check.Backed outputs (decisions.map (·.2.2)) := by
  have witnessed (decision : Decision) (member : decision ∈ decisions) :=
    resolve_matched (concludes.resolved decision member)
  have nonempty : tests.items ≠ [] := by
    rw [← items_of_tests concludes.given]
    exact (decided?_eq_none.mp concludes.undecided).1
  have length : (decisions.map (·.2.2)).length = tests.items.length := by
    rw [← concludes.items, List.length_map, List.length_map]
  have pairs : tests.items.zip (decisions.map (·.2.2)) =
      decisions.map fun decision => (decision.1, decision.2.2) := by
    rw [← concludes.items, List.zip_map']
  simp only [Backed, concludes.given, Option.some.injEq, exists_eq_left', pairs, length, nonempty,
    ne_eq, not_false_eq_true, true_and]
  rcases Combinator.joiner_eq_ok.mp concludes.known with ⟨all, -⟩ | ⟨any, -⟩
  · simp only [all, Combinator.holds, List.all_map, List.all_eq_true, Function.comp_apply,
      List.forall_mem_map, true_and, reduceCtorEq, false_and, or_false]
    exact forall_congr' fun decision => forall_congr' (witnessed decision)
  · simp only [any, Combinator.holds, List.any_map, List.any_eq_true, Function.comp_apply, true_and,
      reduceCtorEq, false_and, false_or]
    constructor
    · rintro ⟨decision, member, matched⟩
      exact ⟨_, List.mem_map_of_mem member, (witnessed decision member).mp matched⟩
    · rintro ⟨_, tried, evidence⟩
      obtain ⟨decision, member, rfl⟩ := List.mem_map.mp tried
      exact ⟨decision, member, (witnessed decision member).mpr evidence⟩

/-- A check passes exactly when its items come to a verdict and there is evidence for it. -/
theorem passes_iff_backed (check : Check) :
    (∀ outputs, (check.evaluate outputs).state = .pass ↔
      (check.evaluate outputs).reason = "" ∧
        check.Backed outputs (check.evaluate outputs).sources) ∧
    ∀ probe, (check.run probe).state = .pass ↔
      (check.run probe).reason = "" ∧ check.failure? probe = none ∧
        check.Backed (check.answers probe) (check.run probe).sources := by
  have evaluated (outputs : Outputs) : (check.evaluate outputs).state = .pass ↔
      (check.evaluate outputs).reason = "" ∧
        check.Backed outputs (check.evaluate outputs).sources := by
    constructor
    · intro passes
      have silent := reason_of_pass passes
      obtain ⟨tests, joiner, decisions, concludes⟩ := evaluate_reason_eq_empty.mp silent
      refine ⟨silent, ?_⟩
      rw [concludes.evaluate]
      exact concludes.holds_iff.mp (concludes.pass_iff.mp passes)
    · rintro ⟨silent, backed⟩
      obtain ⟨tests, joiner, decisions, concludes⟩ := evaluate_reason_eq_empty.mp silent
      rw [concludes.evaluate] at backed
      exact concludes.pass_iff.mpr (concludes.holds_iff.mpr backed)
  refine ⟨evaluated, fun probe => ?_⟩
  cases failed : check.failure? probe with
  | none => simpa [run_of_answers failed] using evaluated (check.answers probe)
  | some failure =>
      simp only [reduceCtorEq, false_and, and_false, iff_false]
      cases decided : check.decided? with
      | some outcome =>
          rw [run_of_decided decided]
          exact (not_pass_of_decided decided).1
      | none =>
          rw [run_of_failure decided failed]
          exact State.failing_ne_pass check.scored

end Check

end HostAudit
