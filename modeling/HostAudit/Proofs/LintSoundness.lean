import HostAudit.Lint
import HostAudit.Proofs.DecisionTable
import HostAudit.Proofs.LookupFaults
import HostAudit.Proofs.RunContents

/-
This file proves that checks without problems are tested without errors, unless a locator of theirs
is too large to look for. So running them gives a verdict, or a reason that lies in the definition
or in a probe. A check whose combinator is unknown has a problem, and it cannot pass.
-/

namespace HostAudit

/-- A requirement can be compared with: its operator is known by its name, and its value can be read
if it is to be a pattern. -/
def Requirement.Usable (requirement : Requirement) : Prop :=
  (∀ name, requirement.operator ≠ .unrecognized name) ∧
    (requirement.operator = .pattern → (Pattern.ofText? requirement.value).isSome = true)

/-- A comparison of an observed value with a required one. -/
structure Compared where
  requirement : Requirement
  observed : String
  subject : String

/-- What a comparison comes to. -/
def Compared.answer (compared : Compared) : Comparison :=
  compared.requirement.operator.compare compared.observed compared.requirement.value
    compared.subject

namespace TestItem

variable {item : TestItem} {source : Source} {text : String} {fault : Lookup.Fault}

/-- The comparison that testing an item on a text makes, if it makes one. -/
def compared? (item : TestItem) (source : Source) (text : String) : Option Compared :=
  if item.present then
    match item.requirement, item.value? source text with
    | some requirement, some value => some ⟨requirement, value, item.locator source⟩
    | _, _ => none
  else none

/-- The outcome of a text from what was found, and from what a comparison came to if one was
made. -/
def outcomeOf (item : TestItem) (source : Source) (found : Bool) :
    Option Comparison → TestOutcome
  | some answer => ⟨answer.result, found, "", answer.explanation⟩
  | none =>
      ⟨found == item.present, found, "", "'" ++ item.locator source ++
        if item.present then "' is present" else "' is not present"⟩

/-- Testing an item on a text makes no other comparison: its outcome depends on this one and on
whether the locator is found. -/
theorem evaluateLine_eq_ok {outcome : TestOutcome} :
    item.evaluateLine source text = .ok outcome ↔
      ∃ found, (item.lookup source).find text (item.locator source) = .ok found ∧
        item.outcomeOf source found.isSome ((item.compared? source text).map Compared.answer) =
          outcome := by
  rw [evaluateLine, bind_eq_ok]
  refine exists_congr fun found => and_congr_right fun looked => ?_
  have value := value?_of_find looked
  rw [pure_eq_ok]
  cases present : item.present with
  | false =>
      cases found <;> simp [judge, present, compared?, outcomeOf, String.append_assoc]
  | true =>
      cases required : item.requirement <;> cases found <;>
        simp [judge, present, required, compared?, value, outcomeOf, Compared.answer,
          String.append_assoc]

/-- A locator of an item is too large for the pattern that looks for it. -/
def Oversizes (item : TestItem) (locator : String) : Prop :=
  locator = item.flag ∧ Lookup.fits Lookup.flagRoom item.flag = false ∨
    locator = item.environment ∧ Lookup.fits Lookup.environmentRoom item.environment = false

/-- A fault is met when the locator for some source is looked for in some text. -/
def Meets (item : TestItem) (fault : Lookup.Fault) : Prop :=
  ∃ source text, (item.lookup source).find text (item.locator source) = .error fault

/-- An item that fails on a text meets the fault. -/
theorem meets_of_evaluateLine (failed : item.evaluateLine source text = .error fault) :
    item.Meets fault :=
  ⟨source, text, evaluateLine_eq_error.mp failed⟩

/-- An item that fails on one of some texts meets the fault. -/
theorem meets_of_evaluateLines {initial : TestOutcome} {texts : List String}
    (failed : item.evaluateLines source initial texts = .error fault) : item.Meets fault := by
  induction texts generalizing initial with
  | nil => exact absurd failed pure_ne_error
  | cons text rest ih =>
      rw [evaluateLines, bind_eq_error] at failed
      rcases failed with failed | ⟨outcome, -, failed⟩
      · exact meets_of_evaluateLine failed
      · split at failed
        · exact ih failed
        · exact absurd failed pure_ne_error

/-- An item that fails on an output meets the fault. -/
theorem meets_of_evaluate {multiple : Bool} {output : String}
    (failed : item.evaluate source multiple output = .error fault) : item.Meets fault := by
  rw [evaluate, bind_eq_error] at failed
  rcases failed with failed | ⟨outcome, -, failed⟩
  · exact meets_of_evaluateLines failed
  · exact absurd failed pure_ne_error

/-- If an item has a readable path then the only fault that it meets is an oversized locator. -/
theorem Meets.oversized (meets : item.Meets fault) (readable : Lint.ofPath item.path = []) :
    ∃ locator, item.Oversizes locator ∧ fault = .oversized locator := by
  obtain ⟨source, text, failed⟩ := meets
  cases source with
  | primary =>
      obtain ⟨-, large, rfl⟩ := Lookup.find_flag_eq_error.mp failed
      exact ⟨item.flag, .inl ⟨rfl, large⟩, rfl⟩
  | config =>
      cases pathless : item.path.isEmpty with
      | true =>
          simp only [lookup, locator, pathless, if_true] at failed
          obtain ⟨-, large, rfl⟩ := Lookup.find_flag_eq_error.mp failed
          exact ⟨item.flag, .inl ⟨rfl, large⟩, rfl⟩
      | false =>
          simp only [lookup, locator, pathless, Bool.false_eq_true, if_false] at failed
          obtain ⟨malformed, read, -⟩ := Lookup.find_path_eq_error.mp failed
          simp [Lint.ofPath, pathless, read] at readable
  | environment =>
      obtain ⟨-, -, large, rfl⟩ := Lookup.find_environment_eq_error.mp failed
      exact ⟨item.environment, .inr ⟨rfl, large⟩, rfl⟩

end TestItem

namespace Lint

/-- A requirement has no problems exactly if it can be compared with. -/
theorem ofRequirement_eq_nil {requirement : Requirement} :
    ofRequirement requirement = [] ↔ requirement.Usable := by
  rw [ofRequirement, Requirement.Usable]
  cases requirement.operator <;> simp [Option.isSome_iff_ne_none]

/-- A combinator has no problems exactly if it is known. -/
theorem ofCombinator_eq_nil {combinator : Combinator} :
    ofCombinator combinator = [] ↔ combinator.fault? = none := by
  cases combinator <;> simp [ofCombinator, Combinator.fault?]

/-- An item without problems has a locator, its path can be read, and it requires nothing that
cannot be compared with. -/
theorem ofItem_eq_nil {item : TestItem} :
    ofItem item = [] ↔ ofLocators item = [] ∧ ofPath item.path = [] ∧
      ∀ requirement ∈ item.requirement, requirement.Usable := by
  rw [ofItem, List.append_eq_nil_iff, List.append_eq_nil_iff, and_assoc]
  simp [ofRequirement_eq_nil]

/-- A check has no problems exactly if its combinator is known and its items have none. -/
theorem ofCheck_eq_nil {check : Check} :
    ofCheck check = [] ↔ (check.tests.bind fun tests => tests.combinator.fault?) = none ∧
      ∀ item ∈ check.items, ofItem item = [] := by
  cases given : check.tests with
  | none => simp [ofCheck, Check.items, given]
  | some tests => simp [ofCheck, Check.items, given, ofTests, ofCombinator_eq_nil]

/-- A catalog has no problems exactly if none of its checks has any. -/
theorem ofCatalog_eq_nil {catalog : Catalog} :
    ofCatalog catalog = [] ↔ ∀ group ∈ catalog.groups, ∀ check ∈ group.checks,
      ofCheck check = [] := by
  simp only [ofCatalog, Catalog.checks, List.flatMap_eq_nil_iff, List.map_eq_nil_iff,
    List.mem_flatMap]
  exact ⟨fun clean group member check inside => clean check ⟨group, member, inside⟩,
    fun clean check ⟨group, member, inside⟩ => clean group member check inside⟩

end Lint

namespace Check

variable {check : Check} {outputs : Outputs} {probe : Probe}

/-- Testing the items of a check on some outputs may make a comparison: it is made on a text of an
output that applies to the item. -/
def Compares (check : Check) (outputs : Outputs) (compared : Compared) : Prop :=
  ∃ item ∈ check.items, ∃ tried ∈ outputs.applicable item,
    ∃ text ∈ TestItem.texts check.multipleValues tried.2,
      item.compared? tried.1 text = some compared

/-- An item that cannot be resolved meets the fault. -/
theorem meets_of_resolveFrom {item : TestItem} {fault : Lookup.Fault}
    {resolved : TestOutcome × Source} {sources : List Source}
    (failed : check.resolveFrom outputs item resolved sources = .error fault) :
    item.Meets fault := by
  induction sources generalizing resolved with
  | nil => exact absurd failed pure_ne_error
  | cons source rest ih =>
      rw [resolveFrom] at failed
      split at failed
      · exact ih failed
      · rw [bind_eq_error] at failed
        rcases failed with failed | ⟨outcome, -, failed⟩
        · exact TestItem.meets_of_evaluate failed
        · split at failed
          · exact absurd failed pure_ne_error
          · exact ih failed

/-- What keeps a check without problems from a verdict is an oversized locator. -/
theorem fault?_of_clean (clean : Lint.ofCheck check = []) {fault : EvaluationError}
    (faulty : check.fault? outputs = some fault) :
    ∃ item ∈ check.items, ∃ locator, item.Oversizes locator ∧
      fault = .lookup (.oversized locator) := by
  obtain ⟨combinable, items⟩ := Lint.ofCheck_eq_nil.mp clean
  rw [fault?, combinable, Option.or_none] at faulty
  obtain ⟨item, member, faulty⟩ := List.exists_of_findSome?_eq_some faulty
  rw [itemFault?] at faulty
  split at faulty
  · cases faulty
  · rename_i cause failed
    have readable := (Lint.ofItem_eq_nil.mp (items item member)).2.1
    obtain ⟨locator, oversizes, rfl⟩ := (meets_of_resolveFrom failed).oversized readable
    exact ⟨item, member, locator, oversizes, (Option.some.inj faulty).symm⟩

/-- What checks without problems compare with can be compared with. -/
theorem usable_of_compares (clean : Lint.ofCheck check = []) {compared : Compared}
    (compares : check.Compares outputs compared) : compared.requirement.Usable := by
  obtain ⟨item, member, tried, -, text, -, made⟩ := compares
  have usable := (Lint.ofItem_eq_nil.mp ((Lint.ofCheck_eq_nil.mp clean).2 item member)).2.2
  rw [TestItem.compared?] at made
  split at made
  · split at made
    · rename_i required _
      rw [← Option.some.inj made]
      exact usable _ required
    · cases made
  · cases made

/-- The reasons that lie in the definition of a check. -/
def definitionReasons : List String :=
  ["There are no tests", "Test marked as skip", "Test marked as a manual test", "No tests defined"]

/-- What is decided before any probe has a reason that lies in the definition. -/
theorem reason_of_decided {outcome : CheckOutcome} (decided : check.decided? = some outcome) :
    outcome.reason ∈ definitionReasons := by
  rcases decided?_cases decided with ⟨-, rfl⟩ | ⟨-, rfl⟩ | ⟨-, rfl⟩ | ⟨-, rfl⟩
  · simp [definitionReasons, CheckOutcome.ofReason]
  · simp [definitionReasons, CheckOutcome.ofReason]
  · simp [definitionReasons, CheckOutcome.ofReason]
  · simp [definitionReasons, failing, CheckOutcome.ofReason]

/-- A failure that counts is the answer to a command of the check. -/
theorem failed_of_failure? {failure : ProbeFailure} (failed : check.failure? probe = some failure) :
    ∃ source, probe (check.command source) = .error failure := by
  obtain ⟨source, -, counted⟩ := List.exists_of_findSome?_eq_some failed
  refine ⟨source, ?_⟩
  rw [failureAt?] at counted
  split at counted
  · cases counted
  · split at counted
    · cases counted
    · rename_i answered _
      rw [answered, Option.some.inj counted]

/-- The reason of a run lies in the definition or in a probe, or else it is what keeps the items
from a verdict. -/
theorem run_reason_cases (check : Check) (probe : Probe) :
    (check.run probe).reason = "" ∨ (check.run probe).reason ∈ definitionReasons ∨
    (∃ source failure, probe (check.command source) = .error failure ∧
      (check.run probe).reason = failure.message) ∨
    ∃ fault, check.fault? (check.answers probe) = some fault ∧
      (check.run probe).reason = fault.message := by
  cases decided : check.decided? with
  | some outcome =>
      rw [run_of_decided decided]
      exact .inr (.inl (reason_of_decided decided))
  | none =>
      cases failed : check.failure? probe with
      | some failure =>
          obtain ⟨source, answered⟩ := failed_of_failure? failed
          rw [run_of_failure decided failed]
          exact .inr (.inr (.inl ⟨source, failure, answered, rfl⟩))
      | none =>
          rw [run_of_answers failed]
          rcases check.evaluate_cases (check.answers probe) with
            ⟨outcome, given, -⟩ | ⟨fault, -, faulty, judged⟩ | concludes
          · simp [decided] at given
          · rw [judged]
            exact .inr (.inr (.inr ⟨fault, faulty, rfl⟩))
          · exact .inl (evaluate_reason_eq_empty.mpr concludes)

/-- An unknown combinator keeps a check from a verdict, if nothing else does. -/
theorem evaluate_of_unrecognized {tests : TestSet} {name : String}
    (given : check.tests = some tests) (unknown : tests.combinator = .unrecognized name)
    (undecided : check.decided? = none) (outputs : Outputs) :
    ∃ fault, check.fault? outputs = some fault ∧
      check.evaluate outputs = check.failing fault.message := by
  rcases check.evaluate_cases outputs with
    ⟨outcome, decided, -⟩ | ⟨fault, -, faulty, judged⟩ | ⟨tests, joiner, decisions, concludes⟩
  · simp [undecided] at decided
  · exact ⟨fault, faulty, judged⟩
  · have free := concludes.fault?_eq_none
    rw [fault?, given, Option.or_eq_none_iff] at free
    simp [unknown, Combinator.fault?] at free

end Check

/-- What begins a text begins it still with another text behind it. -/
theorem head?_append {left : String} {first : Char} (begins : left.toList.head? = some first)
    (right : String) : (left ++ right).toList.head? = some first := by
  rw [String.toList_append, List.head?_append, begins, Option.some_or]

namespace CheckResult

/-- A result has no reason, or one that lies in the definition of the check, or the message of a
failure of one of its commands. -/
def Explained (probe : Probe) (result : CheckResult) : Prop :=
  result.reason = "" ∨ result.reason ∈ Check.definitionReasons ∨
    ∃ command ∈ [result.audit, result.auditConfig, result.auditEnvironment], ∃ failure,
      probe command = .error failure ∧ result.reason = failure.message

/-- The reason of a result is a locator that is too large to look for. -/
def Oversized (catalogs : List Catalog) (result : CheckResult) : Prop :=
  ∃ catalog ∈ catalogs, ∃ group ∈ catalog.groups, ∃ check ∈ group.checks, ∃ item ∈ check.items,
    ∃ locator, item.Oversizes locator ∧ result.reason = (Lookup.Fault.oversized locator).message

/-- That a locator is too large to look for is no other reason: none begins with its letter. -/
theorem not_explained_of_oversized {result : CheckResult} {locator : String}
    (reason : result.reason = (Lookup.Fault.oversized locator).message) (probe : Probe) :
    ¬ result.Explained probe := by
  have begins : result.reason.toList.head? = some 'i' := by
    rw [reason]
    exact head?_append (head?_append (head?_append (head?_append (by decide) _) _) _) _
  rintro (silent | defined | ⟨command, -, failure, -, told⟩)
  · rw [silent] at begins
    cases begins
  · have others : ∀ reason ∈ Check.definitionReasons, reason.toList.head? ≠ some 'i' := by decide
    exact others _ defined begins
  · have other : failure.message.toList.head? = some 'f' := by
      cases failure with
      | notStarted command message =>
          exact head?_append (head?_append (head?_append (by decide) _) _) _
      | ended command output code =>
          exact head?_append (head?_append (head?_append (head?_append (head?_append
            (by decide) _) _) _) _) _
    rw [told, other] at begins
    cases begins

/-- An oversized locator is not explained by the definition or a probe. -/
theorem Oversized.not_explained {catalogs : List Catalog} {result : CheckResult}
    (oversized : result.Oversized catalogs) (probe : Probe) : ¬ result.Explained probe := by
  obtain ⟨_, -, _, -, _, -, _, -, locator, -, reason⟩ := oversized
  exact not_explained_of_oversized reason probe

end CheckResult

namespace Audit

/-- Without problems, only an oversized locator is left unexplained. -/
theorem explained_of_clean {catalogs : List Catalog} {audit : Audit} {probe : Probe}
    (clean : ∀ catalog ∈ catalogs, Lint.ofCatalog catalog = []) {result : CheckResult}
    (member : result ∈ (audit.run probe catalogs).checks) :
    result.Explained probe ∨ result.Oversized catalogs := by
  obtain ⟨catalog, given, group, among, check, selected, rfl⟩ := mem_run_checks.mp member
  have inside : check ∈ group.checks := List.mem_of_mem_filter selected
  have checked := Lint.ofCatalog_eq_nil.mp (clean catalog given) group among check inside
  rw [prepare_eq]
  generalize audit.markOf group check = mark
  -- A mark does not change what there is to test.
  have same : Lint.ofCheck { check with mark := mark } = [] := checked
  rcases Check.run_reason_cases { check with mark := mark } probe with
    silent | decided | ⟨source, failure, failed, reason⟩ | ⟨fault, faulty, reason⟩
  · exact .inl (.inl silent)
  · exact .inl (.inr (.inl decided))
  · refine .inl (.inr (.inr ⟨_, ?_, failure, failed, reason⟩))
    cases source <;> simp [Audit.result, CheckResult.ofOutcome, Check.command]
  · obtain ⟨item, tested, locator, oversizes, rfl⟩ := Check.fault?_of_clean same faulty
    exact .inr ⟨catalog, given, group, among, check, inside, item, tested, locator, oversizes,
      reason⟩

end Audit

/-- If catalogs have no problems then each result of a run of them has no reason, or one that lies
in the definition or in a probe, exactly unless a locator is too large to look for. Nothing else
keeps a check of theirs from a verdict, whatever the outputs are, and no comparison is made with an
unknown operator or with a pattern that cannot be read. Comparisons are all that counts when an item
is tested on a text, besides whether its locator is found. A check with an unknown combinator has a
problem, and testing it never comes to a verdict. -/
theorem lint_guards_runs (catalogs : List Catalog) (audit : Audit) (probe : Probe) :
    ((∀ catalog ∈ catalogs, Lint.ofCatalog catalog = []) →
      (∀ result ∈ (audit.run probe catalogs).checks,
        result.Explained probe ↔ ¬ result.Oversized catalogs) ∧
      ∀ catalog ∈ catalogs, ∀ group ∈ catalog.groups, ∀ check ∈ group.checks, ∀ outputs,
        (∀ fault, check.fault? outputs = some fault → ∃ item ∈ check.items, ∃ locator,
          item.Oversizes locator ∧ fault = .lookup (.oversized locator)) ∧
        ∀ compared, check.Compares outputs compared → compared.requirement.Usable) ∧
    (∀ (item : TestItem) source text outcome, item.evaluateLine source text = .ok outcome ↔
      ∃ found, (item.lookup source).find text (item.locator source) = .ok found ∧
        item.outcomeOf source found.isSome ((item.compared? source text).map Compared.answer) =
          outcome) ∧
    ∀ (check : Check) (tests : TestSet) (name : String), check.tests = some tests →
      tests.combinator = .unrecognized name →
      .unknownCombinator name ∈ Lint.ofCheck check ∧
      (check.decided? = none →
        (∀ outputs, ∃ fault, check.fault? outputs = some fault ∧ check.evaluate outputs =
          ⟨if check.scored then .fail else .warn, fault.message, "", "", []⟩) ∧
        (check.failure? probe = none → ∃ fault,
          check.fault? (check.answers probe) = some fault ∧ check.run probe =
            ⟨if check.scored then .fail else .warn, fault.message, "", "", []⟩)) := by
  refine ⟨?sound, fun item source text outcome => TestItem.evaluateLine_eq_ok, ?complete⟩
  case sound =>
    intro clean
    refine ⟨?results, ?checks⟩
    case results =>
      intro result member
      refine ⟨fun explained oversized => oversized.not_explained probe explained, ?_⟩
      exact (Audit.explained_of_clean clean member).resolve_right
    case checks =>
      intro catalog given group among check inside outputs
      have checked := Lint.ofCatalog_eq_nil.mp (clean catalog given) group among check inside
      exact ⟨fun fault => Check.fault?_of_clean checked,
        fun compared => Check.usable_of_compares checked⟩
  case complete =>
    intro check tests name given unknown
    refine ⟨by simp [Lint.ofCheck, given, Lint.ofTests, unknown, Lint.ofCombinator], ?_⟩
    intro undecided
    have evaluated := Check.evaluate_of_unrecognized given unknown undecided
    refine ⟨evaluated, fun fine => ?_⟩
    rw [Check.run_of_answers fine]
    exact evaluated (check.answers probe)

/-- A catalog with one check. -/
def Catalog.ofCheck (check : Check) : Catalog := ⟨"1", "", "", "node", [⟨"1.1", "", "", [check]⟩]⟩

theorem lint_guards_runs_database :
    Lint.ofCatalog (.ofCheck Check.database) = [] ∧
    (∀ result ∈ (Audit.everything.run Check.databaseHost [.ofCheck Check.database]).checks,
      result.Explained Check.databaseHost) ∧
    (∀ fault, Check.database.fault? ⟨"etcd --auto-tls", none, none⟩ ≠ some fault) ∧
    (({ Check.database with tests := some ⟨[.ofFlag "etcd" true], .unrecognized "xor"⟩ } :
      Check).run Check.databaseHost).state = .fail := by
  have clean : Lint.ofCatalog (.ofCheck Check.database) = [] := by decide
  have fitting : ∀ item ∈ Check.database.items, ∀ locator, ¬ item.Oversizes locator := by
    intro item tested locator oversizes
    obtain rfl := List.mem_singleton.mp tested
    rcases oversizes with ⟨-, large⟩ | ⟨-, large⟩
    · exact absurd large (by decide)
    · exact absurd large (by decide)
  obtain ⟨sound, -, complete⟩ :=
    lint_guards_runs [.ofCheck Check.database] .everything Check.databaseHost
  obtain ⟨results, checks⟩ := sound (by simpa using clean)
  refine ⟨clean, ?_, ?_, ?_⟩
  · intro result member
    refine (results result member).mpr ?_
    rintro ⟨catalog, given, group, among, check, inside, item, tested, locator, oversizes, -⟩
    obtain rfl := List.mem_singleton.mp given
    obtain rfl := List.mem_singleton.mp among
    obtain rfl := List.mem_singleton.mp inside
    exact fitting item tested locator oversizes
  · intro fault faulty
    obtain ⟨item, tested, locator, oversizes, -⟩ :=
      (checks _ (.head _) _ (.head _) Check.database (.head _) _).1 fault faulty
    exact fitting item tested locator oversizes
  · obtain ⟨fault, -, ran⟩ := ((complete { Check.database with
      tests := some ⟨[.ofFlag "etcd" true], .unrecognized "xor"⟩ } _ "xor" rfl rfl).2 (by decide)).2
        (by decide)
    rw [ran]
    rfl

/-- An item that asks for a variable not to be set. -/
def TestItem.unset (name : String) : TestItem := ⟨"", "", name, false, none⟩

/-- A check that asks for a variable not to be set. -/
def Check.unset (name : String) : Check :=
  { Check.empty with
    id := "1.1.1"
    audit := "ps"
    auditEnvironment := "env"
    tests := some ⟨[.unset name], .all⟩
    scored := true }

/-- A host with one variable. -/
def unsetHost : Probe := .recorded [("ps", .ok "init"), ("env", .ok "PATH=/bin")]

namespace Check

variable {name : String}

/-- On that host, the item cannot be resolved. -/
theorem resolve_unset (named : name ≠ "")
    (large : Lookup.fits Lookup.environmentRoom name = false) :
    (unset name).resolve ⟨"init", none, some "PATH=/bin"⟩ (.unset name) =
      .error (.oversized name) := by
  have primary : (TestItem.unset name).evaluate .primary false "init" =
      .ok ⟨true, false, "", "'' is not present"⟩ := rfl
  have environment : (TestItem.unset name).evaluate .environment false "PATH=/bin" =
      .error (.oversized name) := by
    have trimmed : TestItem.trimmedOutput "PATH=/bin" = "PATH=/bin" := by decide
    have looked : Lookup.environment.find "PATH=/bin" name = .error (.oversized name) :=
      Lookup.find_environment_eq_error.mpr ⟨by decide, named, large, rfl⟩
    simp [TestItem.evaluate, TestItem.tested, trimmed, TestItem.evaluateLines,
      TestItem.evaluateLine, TestItem.unset, TestItem.lookup, TestItem.locator, looked]
  have whole : (unset name).multipleValues = false := rfl
  have applies : (TestItem.unset name).environment ≠ "" := named
  simp [resolve, Source.all, resolveFrom, Outputs.of?, applies, whole, primary, environment]

/-- On that host, the check fails with the fault of the name. -/
theorem run_unset (named : name ≠ "")
    (large : Lookup.fits Lookup.environmentRoom name = false) :
    (unset name).run unsetHost = (unset name).failing (Lookup.Fault.oversized name).message := by
  -- What is asked of the host does not depend on the name.
  have fine : (unset name).failure? unsetHost = none :=
    (by decide : (unset "").failure? unsetHost = none)
  have answers : (unset name).answers unsetHost = ⟨"init", none, some "PATH=/bin"⟩ :=
    (by decide : (unset "").answers unsetHost = ⟨"init", none, some "PATH=/bin"⟩)
  have faulty : (unset name).verdict ⟨[.unset name], .all⟩ ⟨"init", none, some "PATH=/bin"⟩ =
      .error (.lookup (.oversized name)) := by simp [verdict, resolve_unset named large]
  rw [run_of_answers fine, answers, evaluate_of_undecided rfl]
  exact judge_of_error rfl faulty

end Check

/-- The check has no problem, and its result has a reason that is not explained. -/
theorem escapes_lint {name : String} (named : name ≠ "")
    (large : Lookup.fits Lookup.environmentRoom name = false) :
    Lint.ofCatalog (.ofCheck (.unset name)) = [] ∧
    ∃ result ∈ (Audit.everything.run unsetHost [.ofCheck (.unset name)]).checks,
      result.reason = (Lookup.Fault.oversized name).message ∧
      ¬ result.Explained unsetHost := by
  have clean : Lint.ofCheck (.unset name) = [] := by
    simp [Lint.ofCheck, Check.unset, Lint.ofTests, Lint.ofCombinator, Lint.ofItem,
      Lint.ofLocators, TestItem.unset, named, Lint.ofPath]
  have reason : ((Check.unset name).run unsetHost).reason =
      (Lookup.Fault.oversized name).message := by
    rw [Check.run_unset named large]
    rfl
  refine ⟨by simp [Lint.ofCatalog, Catalog.checks, Catalog.ofCheck, clean],
    .ofOutcome (.unset name) ((Check.unset name).run unsetHost), ?_, reason,
    CheckResult.not_explained_of_oversized reason unsetHost⟩
  exact Audit.mem_run_checks.mpr ⟨_, .head _, _, .head _, .unset name, .head _, rfl⟩

/-- The name of a variable is too long to look for, and no problem of its check tells so: the result
of the check has a reason that lies neither in the definition nor in a probe. -/
theorem long_name_escapes_lint :
    Lint.ofCatalog (.ofCheck (.unset (nameOf 500000))) = [] ∧
    ∃ result ∈ (Audit.everything.run unsetHost [.ofCheck (.unset (nameOf 500000))]).checks,
      result.reason = (Lookup.Fault.oversized (nameOf 500000)).message ∧
      ¬ result.Explained unsetHost :=
  escapes_lint (nameOf_ne_empty (by decide)) ((fits_nameOf _ _).trans (by decide))

end HostAudit
