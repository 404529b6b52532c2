import HostAudit.Proofs.Verdict

/-
This file compares two ways to test the items of a set on one output: all at once, and one by one as
the tests of a check that has no other output. They agree on the verdict, on its texts, and on the
first error.
-/

namespace HostAudit

/-- The outputs of a check of which only the first probe was asked. -/
def Outputs.ofPrimary (output : String) : Outputs := ⟨output, none, none⟩

namespace Check

variable {check : Check} {output : String} {tests : TestSet}

/-- No source follows the primary one, whether or not the locator was found there. -/
theorem resolve_ofPrimary (item : TestItem) :
    check.resolve (.ofPrimary output) item =
      (item.evaluate .primary check.multipleValues output).map (·, .primary) := by
  have primary : (Outputs.ofPrimary output).of? item .primary = some output := rfl
  have config : (Outputs.ofPrimary output).of? item .config = none := rfl
  have environment : (Outputs.ofPrimary output).of? item .environment = none := by
    simp [Outputs.of?, Outputs.ofPrimary]
  simp only [resolve, Source.all, resolveFrom, primary, config, environment]
  cases item.evaluate .primary check.multipleValues output with
  | error fault => rfl
  | ok outcome =>
      change (if outcome.found then _ else _) = _
      split <;> rfl

/-- With a primary output alone, resolving items is evaluating them on it. -/
theorem mapM_resolve_ofPrimary (items : List TestItem) :
    items.mapM (check.resolve (.ofPrimary output)) =
      (items.mapM fun (item : TestItem) =>
        item.evaluate .primary check.multipleValues output).map (List.map (·, .primary)) := by
  have each : check.resolve (.ofPrimary output) = fun item =>
      (item.evaluate .primary check.multipleValues output).map (·, .primary) := by
    funext item
    exact resolve_ofPrimary item
  rw [each, mapM_map]

/-- The verdict on the tests of a check is that on the set, each item being decided on the primary
output. -/
theorem verdict_ofPrimary :
    check.verdict tests (.ofPrimary output) =
      (tests.evaluate .primary check.multipleValues output).map
        (·, tests.items.map fun _ => .primary) := by
  rw [verdict, TestSet.evaluate, mapM_resolve_ofPrimary]
  cases answered : tests.items.mapM fun (item : TestItem) =>
      item.evaluate .primary check.multipleValues output with
  | error fault => rfl
  | ok outcomes =>
      obtain ⟨pairs, items, rfl, -⟩ := mapM_eq_ok.mp answered
      have outcomesOnly : ((pairs.map Prod.snd).map (·, Source.primary)).map Prod.fst =
          pairs.map Prod.snd := by
        simp [Function.comp_def]
      have sourcesOnly : ((pairs.map Prod.snd).map (·, Source.primary)).map Prod.snd =
          tests.items.map fun _ => .primary := by
        simp [← items, Function.comp_def]
      change (tests.combinator.combine _ >>= _) = Except.map _ (tests.combinator.combine _)
      rw [outcomesOnly, sourcesOnly]
      cases tests.combinator.combine (pairs.map Prod.snd) <;> rfl

/-- A check that its definition leaves open comes to what its test set comes to, if it has the
primary output only: to the same verdict with the same texts, or to a failure for the same error. -/
theorem evaluate_agrees_with_set (check : Check) (undecided : check.decided? = none) :
    ∃ tests, check.tests = some tests ∧ ∀ output,
      (∀ outcome, tests.evaluate .primary check.multipleValues output = .ok outcome →
        ((check.evaluate (.ofPrimary output)).state = .pass ↔ outcome.matched = true) ∧
        check.evaluate (.ofPrimary output) =
          ⟨if outcome.matched then .pass else if check.scored then .fail else .warn, "",
            outcome.actual, outcome.expected, tests.items.map fun _ => .primary⟩) ∧
      ∀ error, tests.evaluate .primary check.multipleValues output = .error error →
        check.evaluate (.ofPrimary output) =
          ⟨if check.scored then .fail else .warn, error.message, "", "", []⟩ := by
  obtain ⟨tests, given⟩ := tests_of_items_ne_nil (decided?_eq_none.mp undecided).1
  refine ⟨tests, given, fun output => ⟨?verdict, ?failure⟩⟩
  case verdict =>
    intro outcome concluded
    have verdict : check.verdict tests (.ofPrimary output) =
        .ok (outcome, tests.items.map fun _ => .primary) := by
      rw [verdict_ofPrimary, concluded]
      rfl
    have evaluated : check.evaluate (.ofPrimary output) =
        ⟨if outcome.matched then .pass else .failing check.scored, "", outcome.actual,
          outcome.expected, tests.items.map fun _ => .primary⟩ := by
      simp only [evaluate_of_undecided undecided, judge, given, verdict]
    refine ⟨?_, evaluated⟩
    rw [evaluated]
    cases matched : outcome.matched <;> simp [State.failing_ne_pass]
  case failure =>
    intro error failed
    have verdict : check.verdict tests (.ofPrimary output) = .error error := by
      rw [verdict_ofPrimary, failed]
      rfl
    rw [evaluate_of_undecided undecided]
    exact judge_of_error given verdict

/-- For this database, both the result of a set and its fault show in the check. -/
theorem evaluate_agrees_with_set_database :
    let rule := (⟨[.ofFlag "etcd" true, .ofFlag "--debug" false], .unrecognized "xor"⟩ : TestSet)
    database.evaluate (.ofPrimary "etcd --auto-tls=true\n") =
      ⟨.fail, "", "etcd --auto-tls=true", "'--auto-tls' is equal to 'false'", [.primary]⟩ ∧
    ({ database with tests := some rule, scored := false } : Check).evaluate (.ofPrimary "etcd") =
      ⟨.warn, "unknown binary operator for tests xor", "", "", []⟩ := by
  intro rule
  obtain ⟨tests, given, agrees⟩ := evaluate_agrees_with_set database (by decide)
  obtain ⟨others, same, fails⟩ := evaluate_agrees_with_set
    { database with tests := some rule, scored := false } (by decide)
  obtain rfl := Option.some.inj given
  obtain rfl := Option.some.inj same
  refine ⟨?_, (fails "etcd").2 (.unknownCombinator "xor") rfl⟩
  exact ((agrees "etcd --auto-tls=true\n").1
    ⟨false, true, "etcd --auto-tls=true", "'--auto-tls' is equal to 'false'"⟩ rfl).2

end Check

end HostAudit
