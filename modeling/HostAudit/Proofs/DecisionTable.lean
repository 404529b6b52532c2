import HostAudit.Proofs.Verdict
import Mathlib.Data.List.Basic

/-
This file gives the decision table that running a check follows, and what the table implies.
-/

namespace HostAudit

/-- The message of a probe failure says something. -/
theorem ProbeFailure.message_ne_empty (failure : ProbeFailure) : failure.message ≠ "" := by
  cases failure with
  | notStarted command message =>
      exact append_ne_empty _ (append_ne_empty _ (append_ne_empty _ (by decide)))
  | ended command output code =>
      exact append_ne_empty _ (append_ne_empty _ (append_ne_empty _ (append_ne_empty _
        (append_ne_empty _ (by decide)))))

namespace Check

variable {check : Check} {outputs : Outputs} {probe : Probe}

/-- The items that can be resolved on some outputs, each with what it comes to and its source. -/
def decisions (check : Check) (outputs : Outputs) : List Decision :=
  check.items.filterMap fun item => (check.resolve outputs item).toOption.map (item, ·)

/-- The items match together: one of them is enough if the combinator says so. -/
def agree (check : Check) (decisions : List Decision) : Bool :=
  if check.tests.map TestSet.combinator = some .any then decisions.any (·.2.1.matched)
  else decisions.all (·.2.1.matched)

/-- The conditions of the items in words. -/
def explanation (check : Check) (decisions : List Decision) : String :=
  Text.joined (if check.tests.map TestSet.combinator = some .any then " OR " else " AND ")
    (decisions.map (·.2.1.expected))

/-- The output of the source that the first item was decided on, or nothing if that item asks for
absence. -/
def shown (outputs : Outputs) : List Decision → String
  | (item, _, source) :: _ =>
      if item.present then ((outputs.of? item source).map TestItem.trimmedOutput).getD "" else ""
  | [] => ""

/-- What a check comes to if each of its items can be resolved and the combinator is known. -/
def verdictOn (check : Check) (outputs : Outputs) : CheckOutcome :=
  let decisions := check.decisions outputs
  ⟨if check.agree decisions then .pass else .failing check.scored, "", shown outputs decisions,
    check.explanation decisions, decisions.map (·.2.2)⟩

/-- A row of a decision table gives its outcome if its condition holds. -/
def row (condition : Prop) [Decidable condition] (outcome : CheckOutcome) : Option CheckOutcome :=
  if condition then some outcome else none

/-- The first row that gives an outcome decides. -/
def firstRow (rows : List (Option CheckOutcome)) : Option CheckOutcome :=
  rows.findSome? fun row => row

/-- The rows that look at the definition of a check only. -/
def definitionRows (check : Check) : List (Option CheckOutcome) :=
  [row (check.scored = true ∧ check.mark = none ∧ check.tests = none)
      (.ofReason .warn "There are no tests"),
    row (check.mark = some .skip) (.ofReason .info "Test marked as skip"),
    row (check.mark = some .manual) (.ofReason .warn "Test marked as a manual test"),
    row (check.items = []) (.ofReason (.failing check.scored) "No tests defined")]

/-- The rows that look at what the probes answer. -/
def evidenceRows (check : Check) (probe : Probe) : List (Option CheckOutcome) :=
  [(check.failure? probe).map fun failure => .ofReason (.failing check.scored) failure.message,
    (check.fault? (check.answers probe)).map fun fault =>
      .ofReason (.failing check.scored) fault.message,
    some (check.verdictOn (check.answers probe))]

/-- Where the first rows give no outcome, the others are asked. -/
theorem firstRow_append (rows others : List (Option CheckOutcome)) :
    firstRow (rows ++ others) = (firstRow rows).or (firstRow others) := List.findSome?_append

/-- The rows on the definition decide just as a check does before its probes are asked. -/
theorem firstRow_definitionRows (check : Check) :
    firstRow check.definitionRows = check.decided? := by
  have blank : (check.items.isEmpty = true) = (check.items = []) := by simp
  simp only [firstRow, definitionRows, decided?, failing, row, List.findSome?_cons,
    List.findSome?_nil, blank]
  repeat' split
  all_goals simp_all

/-- Where the items come to a conclusion, each of them can be resolved. -/
theorem Concludes.decisions_eq {tests : TestSet} {joiner : String} {decisions : List Decision}
    (concludes : check.Concludes outputs tests joiner decisions) :
    check.decisions outputs = decisions := by
  have kept : ∀ decision ∈ decisions,
      (check.resolve outputs decision.1).toOption.map (decision.1, ·) = some decision := by
    intro decision member
    rw [concludes.resolved decision member]
    rfl
  rw [Check.decisions, items_of_tests concludes.given, ← concludes.items, List.filterMap_map]
  exact (List.filterMap_eq_map_iff_forall_eq_some.mpr kept).trans (List.map_id decisions)

/-- What the combinator makes of the outcomes is what the table says of them. -/
theorem Concludes.combined_eq {tests : TestSet} {joiner : String} {decisions : List Decision}
    (concludes : check.Concludes outputs tests joiner decisions) :
    let combined := tests.combinator.combined joiner (decisions.map (·.2.1))
    combined.matched = check.agree decisions ∧ combined.actual = shown outputs decisions ∧
      combined.expected = check.explanation decisions := by
  have actual : (tests.combinator.combined joiner (decisions.map (·.2.1))).actual =
      shown outputs decisions := by
    cases given : decisions with
    | nil => rfl
    | cons decision rest =>
        obtain ⟨output, applies, actual⟩ :=
          resolve_actual (concludes.resolved decision (by simp [given]))
        simp [Combinator.combined, shown, applies, actual]
  rcases Combinator.joiner_eq_ok.mp concludes.known with ⟨all, rfl⟩ | ⟨any, rfl⟩
  · refine ⟨?_, actual, ?_⟩ <;>
      simp [agree, explanation, concludes.given, all, Combinator.combined, Combinator.holds,
        Function.comp_def]
  · refine ⟨?_, actual, ?_⟩ <;>
      simp [agree, explanation, concludes.given, any, Combinator.combined, Combinator.holds,
        Function.comp_def]

/-- Where the items come to a conclusion, the verdict is that of the table. -/
theorem Concludes.evaluate_eq_verdictOn {tests : TestSet} {joiner : String}
    {decisions : List Decision} (concludes : check.Concludes outputs tests joiner decisions) :
    check.evaluate outputs = check.verdictOn outputs := by
  obtain ⟨matched, actual, expected⟩ := concludes.combined_eq
  simp only [concludes.evaluate, concluded, verdictOn, concludes.decisions_eq, matched, actual,
    expected]

/-- The first row of the table that applies is what running a check comes to. -/
theorem firstRow_table (check : Check) (probe : Probe) :
    firstRow (check.definitionRows ++ check.evidenceRows probe) = some (check.run probe) := by
  rw [firstRow_append, firstRow_definitionRows]
  cases decided : check.decided? with
  | some outcome => rw [run_of_decided decided, Option.some_or]
  | none =>
      rw [Option.none_or]
      cases failed : check.failure? probe with
      | some failure =>
          rw [run_of_failure decided failed]
          simp only [firstRow, evidenceRows, failed, Option.map_some, List.findSome?_cons]
          rfl
      | none =>
          rw [run_of_answers failed]
          simp only [firstRow, evidenceRows, failed, Option.map_none, List.findSome?_cons]
          rcases check.evaluate_cases (check.answers probe) with
            ⟨outcome, given, -⟩ | ⟨fault, -, faulty, judged⟩ | ⟨tests, joiner, decisions, concludes⟩
          · simp [decided] at given
          · simp only [faulty, judged, Option.map_some]
            rfl
          · simp only [concludes.fault?_eq_none, concludes.evaluate_eq_verdictOn, Option.map_none]

/-- A run is decided by the definition of the check, fails for a reason, or comes to a verdict. -/
theorem run_cases (check : Check) (probe : Probe) :
    (∃ outcome, check.decided? = some outcome ∧ check.run probe = outcome) ∨
    (∃ reason, check.decided? = none ∧ reason ≠ "" ∧ check.run probe = check.failing reason) ∨
    check.failure? probe = none ∧ ∃ tests joiner decisions,
      check.Concludes (check.answers probe) tests joiner decisions := by
  cases decided : check.decided? with
  | some outcome => exact .inl ⟨outcome, rfl, run_of_decided decided probe⟩
  | none =>
      cases failed : check.failure? probe with
      | some failure =>
          exact .inr (.inl ⟨failure.message, rfl, failure.message_ne_empty,
            run_of_failure decided failed⟩)
      | none =>
          rw [run_of_answers failed]
          rcases check.evaluate_cases (check.answers probe) with
            ⟨outcome, given, -⟩ | ⟨fault, -, -, judged⟩ | concludes
          · simp [decided] at given
          · exact .inr (.inl ⟨fault.message, rfl, fault.message_ne_empty, judged⟩)
          · exact .inr (.inr ⟨rfl, concludes⟩)

/-- A run gives no reason exactly if all probes answer and the items come to a conclusion. -/
theorem run_reason_eq_empty :
    (check.run probe).reason = "" ↔ check.failure? probe = none ∧
      ∃ tests joiner decisions, check.Concludes (check.answers probe) tests joiner decisions := by
  constructor
  · intro silent
    rcases check.run_cases probe with
      ⟨outcome, decided, rfl⟩ | ⟨reason, -, nonempty, failed⟩ | verdict
    · exact absurd silent (not_pass_of_decided decided).2
    · rw [failed] at silent
      exact absurd silent nonempty
    · exact verdict
  · rintro ⟨fine, concludes⟩
    rw [run_of_answers fine]
    exact evaluate_reason_eq_empty.mpr concludes

/-- A check that its definition leaves open passes or does not. -/
theorem state_of_undecided (undecided : check.decided? = none) (probe : Probe) :
    (check.run probe).state = .pass ∨ (check.run probe).state = .failing check.scored := by
  rcases check.run_cases probe with
    ⟨outcome, decided, -⟩ | ⟨reason, -, -, failed⟩ | ⟨fine, tests, joiner, decisions, concludes⟩
  · simp [undecided] at decided
  · rw [failed]
    exact .inr rfl
  · rw [run_of_answers fine, concludes.evaluate]
    simp only [concluded]
    split
    · exact .inl rfl
    · exact .inr rfl

/-- The state of a run as far as the definition of the check tells. -/
theorem run_state (check : Check) (probe : Probe) :
    (check.scored = true ∧ check.mark = none ∧ check.tests = none) ∧
        (check.run probe).state = .warn ∨
      check.mark = some .skip ∧ (check.run probe).state = .info ∨
      check.mark = some .manual ∧ (check.run probe).state = .warn ∨
      (¬ (check.scored = true ∧ check.mark = none ∧ check.tests = none) ∧
        check.mark ≠ some .skip ∧ check.mark ≠ some .manual) ∧
        ((check.run probe).state = .pass ∨ (check.run probe).state = .failing check.scored) := by
  cases decided : check.decided? with
  | some outcome =>
      rw [run_of_decided decided]
      rcases decided?_cases decided with
        ⟨row, rfl⟩ | ⟨row, rfl⟩ | ⟨row, rfl⟩ | ⟨row, rfl⟩
      · exact .inl ⟨row, rfl⟩
      · exact .inr (.inl ⟨row, rfl⟩)
      · exact .inr (.inr (.inl ⟨row, rfl⟩))
      · exact .inr (.inr (.inr ⟨row, .inr rfl⟩))
  | none =>
      obtain ⟨nonempty, unskipped, unmanual⟩ := decided?_eq_none.mp decided
      obtain ⟨tests, given⟩ := tests_of_items_ne_nil nonempty
      refine .inr (.inr (.inr ⟨⟨?_, unskipped, unmanual⟩, state_of_undecided decided probe⟩))
      simp [given]

/-- Only a scored check can fail. -/
theorem scored_of_fails (fails : (check.run probe).state = .fail) : check.scored = true := by
  rcases check.run_state probe with
    ⟨row, -⟩ | ⟨-, informs⟩ | ⟨-, warns⟩ | ⟨-, passes | falls⟩
  · exact row.1
  · simp [fails] at informs
  · simp [fails] at warns
  · simp [fails] at passes
  · exact State.failing_eq_fail.mp (falls.symm.trans fails)

/-- A run informs exactly if the check is to be skipped. -/
theorem informs_iff : (check.run probe).state = .info ↔ check.mark = some .skip := by
  rcases check.run_state probe with
    ⟨row, warns⟩ | ⟨skip, informs⟩ | ⟨manual, warns⟩ | ⟨row, passes | falls⟩
  · simp [warns, row.2.1]
  · simp [informs, skip]
  · simp [warns, manual]
  · simp [passes, row.2.1]
  · simp [falls, row.2.1, State.failing_ne_info]

/-- Running a scored check warns exactly if it is to be made by hand, or has neither a mark nor
tests. -/
theorem warns_iff (scored : check.scored = true) :
    (check.run probe).state = .warn ↔
      check.mark = some .manual ∨ check.mark = none ∧ check.tests = none := by
  rcases check.run_state probe with
    ⟨row, warns⟩ | ⟨skip, informs⟩ | ⟨manual, warns⟩ | ⟨row, judged⟩
  · simp [warns, row.2]
  · simp [informs, skip]
  · simp [warns, manual]
  · have tested : ¬ (check.mark = none ∧ check.tests = none) := fun met => row.1 ⟨scored, met⟩
    rcases judged with passes | falls
    · simp [passes, row.2.2, tested]
    · simp [falls, scored, State.failing, row.2.2, tested]

/-- A run without a reason is the verdict on all items. -/
theorem run_eq_verdictOn (silent : (check.run probe).reason = "") :
    (check.decisions (check.answers probe)).map (·.1) = check.items ∧
      check.run probe = check.verdictOn (check.answers probe) := by
  obtain ⟨fine, tests, joiner, decisions, concludes⟩ := run_reason_eq_empty.mp silent
  refine ⟨?_, ?_⟩
  · rw [concludes.decisions_eq, concludes.items, items_of_tests concludes.given]
  · rw [run_of_answers fine, concludes.evaluate_eq_verdictOn]

/-- Running a check follows the decision table. So it fails scored checks only, it informs exactly
of checks to be skipped, and it warns of a scored check only if that is manual or has neither tests
nor a mark. The reason is empty exactly when the items come to a verdict, and then every item has
its source, the conditions of all items are joined, and the first item tells which output is
shown. -/
theorem run_follows_table (check : Check) (probe : Probe) :
    firstRow (check.definitionRows ++ check.evidenceRows probe) = some (check.run probe) ∧
    ((check.run probe).state = .fail → check.scored = true) ∧
    ((check.run probe).state = .info ↔ check.mark = some .skip) ∧
    (check.scored = true → ((check.run probe).state = .warn ↔
      check.mark = some .manual ∨ check.mark = none ∧ check.tests = none)) ∧
    ((check.run probe).reason = "" ↔ check.failure? probe = none ∧
      ∃ tests joiner decisions, check.Concludes (check.answers probe) tests joiner decisions) ∧
    ((check.run probe).reason = "" →
      let decisions := check.decisions (check.answers probe)
      decisions.map (·.1) = check.items ∧
      (check.run probe).sources = decisions.map (·.2.2) ∧
      (check.run probe).sources.length = check.items.length ∧
      (check.run probe).expected = check.explanation decisions ∧
      (check.run probe).actual = shown (check.answers probe) decisions) := by
  refine ⟨check.firstRow_table probe, scored_of_fails, informs_iff, warns_iff, run_reason_eq_empty,
    ?_⟩
  intro silent
  obtain ⟨items, verdict⟩ := run_eq_verdictOn silent
  simp only [verdict, verdictOn, ← items, List.length_map, and_self]

theorem run_follows_table_database :
    ({ database with auditEnvironment := "" } : Check).scored = true ∧
    (database.run databaseHost).state ≠ .warn ∧
    (database.run databaseHost).sources = [.environment] ∧
    (database.run databaseHost).expected = "'ETCD_AUTO_TLS' is equal to 'false'" ∧
    (database.run databaseHost).actual = "ETCD_AUTO_TLS=false" := by
  obtain ⟨-, fails, -⟩ := run_follows_table { database with auditEnvironment := "" } databaseHost
  obtain ⟨-, -, -, warns, -, verdict⟩ := run_follows_table database databaseHost
  obtain ⟨-, sources, -, expected, actual⟩ := verdict (by decide)
  refine ⟨fails (by decide), ?_, sources, expected, actual⟩
  rw [Ne, warns rfl]
  decide

end Check

end HostAudit
