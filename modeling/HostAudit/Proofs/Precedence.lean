import HostAudit.Proofs.Verdict

/-
This file tells when the outputs of later sources can decide an item of a check although its locator
occurs in the output of an earlier one.
-/

namespace HostAudit.Check

variable {check : Check} {outputs : Outputs} {item : TestItem}

/-- The source that is recorded for an item is one that resolving it gives. -/
theorem resolve_recorded {index : Nat} {recorded : Source}
    (silent : (check.evaluate outputs).reason = "") (placed : check.items[index]? = some item)
    (record : (check.evaluate outputs).sources[index]? = some recorded) :
    ∃ outcome, check.resolve outputs item = .ok (outcome, recorded) := by
  obtain ⟨tests, joiner, decisions, concludes⟩ := evaluate_reason_eq_empty.mp silent
  rw [items_of_tests concludes.given, ← concludes.items, List.getElem?_map] at placed
  rw [concludes.evaluate] at record
  obtain ⟨decision, found, rfl⟩ := Option.map_eq_some_iff.mp placed
  simp only [concluded, List.getElem?_map, found, Option.map_some, Option.some.injEq] at record
  refine ⟨decision.2.1, ?_⟩
  rw [concludes.resolved decision (List.mem_of_getElem? found), ← record]

/-- An item is decided on some first sources exactly when no others apply or one of the first
settles it: in the first of its lines on which the condition fails, if there is one, the locator is
found. Then the others do not count, and the item is matched on the evidence of the recorded source
only. -/
theorem recorded_among_first (check : Check) (outputs : Outputs) {index : Nat} {item : TestItem}
    {recorded : Source} {first later : List (Source × String)}
    (silent : (check.evaluate outputs).reason = "") (placed : check.items[index]? = some item)
    (record : (check.evaluate outputs).sources[index]? = some recorded)
    (order : outputs.applicable item = first ++ later) :
    (recorded ∈ first.map Prod.fst ↔
      later = [] ∨ ∃ tried ∈ first, item.SettledBy check.multipleValues tried) ∧
    ((∃ tried ∈ first, item.SettledBy check.multipleValues tried) →
      ∃ outcome, (outcome.matched = true ↔
          item.Witnessed check.multipleValues outputs recorded) ∧
        ∀ (others : Outputs) (rest : List (Source × String)),
          others.applicable item = first ++ rest →
            check.resolve others item = .ok (outcome, recorded)) := by
  obtain ⟨outcome, resolved⟩ := resolve_recorded silent placed record
  have decided := resolve_eq_ok.mp resolved
  have distinct := outputs.applicable_nodup item
  rw [order] at decided distinct
  refine ⟨decided.mem_first_iff distinct, fun settled => ?_⟩
  refine ⟨outcome, resolve_matched resolved, fun others rest same => ?_⟩
  rw [resolve_eq_ok, same, TestItem.decidedOn_append_of_settled settled]
  exact (TestItem.decidedOn_append_of_settled settled).mp decided

/-- An item that asks for an encrypted connection. -/
def encrypted (requirement : Option Requirement) : TestItem :=
  ⟨"--tls", "", "", true, requirement⟩

/-- A check of a service that is to use an encrypted connection. -/
def service (requirement : Option Requirement) : Check :=
  { Check.empty with
    tests := some ⟨[encrypted requirement], .all⟩
    multipleValues := true
    scored := true }

/-- A flag with another value in the primary output is not looked for in the configuration. -/
theorem recorded_among_first_service :
    let check := service (some ⟨.equal, "yes"⟩)
    let item := encrypted (some ⟨.equal, "yes"⟩)
    (check.evaluate ⟨"--tls=no\nkubelet", some "--tls=yes", none⟩).sources = [.primary] ∧
    ∃ outcome, (outcome.matched = true ↔
        item.Witnessed true ⟨"--tls=no\nkubelet", some "--tls=yes", none⟩ .primary) ∧
      ∀ config, check.resolve ⟨"--tls=no\nkubelet", config, none⟩ item =
        .ok (outcome, .primary) := by
  intro check item
  have order : Outputs.applicable ⟨"--tls=no\nkubelet", some "--tls=yes", none⟩ item =
      [(.primary, "--tls=no\nkubelet")] ++ [(.config, "--tls=yes")] := rfl
  have settled : ∃ tried ∈ [(Source.primary, "--tls=no\nkubelet")],
      item.SettledBy check.multipleValues tried := by decide
  have placed : check.items[0]? = some item := rfl
  have record : (check.evaluate ⟨"--tls=no\nkubelet", some "--tls=yes", none⟩).sources[0]? =
      some .primary := by decide
  obtain ⟨outcome, matched, kept⟩ :=
    (recorded_among_first check _ (by decide) placed record order).2 settled
  refine ⟨by decide, outcome, matched, fun config => ?_⟩
  exact kept _ (Outputs.among _ item [.config, .environment]) rfl

/-- The locator of an item occurs in the first source, but not in its first line. The second source
decides. -/
theorem later_source_overrides :
    let check := service none
    let item := encrypted none
    let outputs : Outputs := ⟨"kubelet\n--tls", some "--tls", none⟩
    check.multipleValues = true ∧ check.items = [item] ∧
    (∃ text ∈ TestItem.texts true outputs.audit, item.Locates .primary text) ∧
    check.evaluate outputs = ⟨.pass, "", "--tls", "'--tls' is present", [.config]⟩ := by
  decide

end HostAudit.Check
