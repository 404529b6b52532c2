import HostAudit.Proofs.LookupFaults
import HostAudit.Proofs.MultipleValues
import HostAudit.Proofs.Precedence

/-
This file tells which source an item is decided on when each output counts as a single value: the
first one in which its locator is found, or else the last one. The sources behind it do not count. A
path that cannot be read is a fault once the configuration is reached.
-/

namespace HostAudit

namespace Source

/-- The sources that are tried before a source. -/
def earlier : Source → List Source
  | primary => []
  | config => [primary]
  | environment => [primary, config]

/-- The sources that are tried after a source. -/
def later : Source → List Source
  | primary => [config, environment]
  | config => [environment]
  | environment => []

/-- Every source is between those before it and those behind it. -/
theorem all_eq (source : Source) : all = source.earlier ++ source :: source.later := by
  cases source <;> rfl

end Source

namespace Outputs

variable {outputs others : Outputs} {item : TestItem}

/-- The primary source always applies, the configuration if there is one, and the environment if
there is one and the item names a variable. -/
theorem applicable_eq (outputs : Outputs) (item : TestItem) :
    outputs.applicable item = (.primary, outputs.audit) ::
      (outputs.config.toList.map (Source.config, ·) ++
        if item.environment = "" then []
        else outputs.environment.toList.map (Source.environment, ·)) := by
  by_cases nameless : item.environment = "" <;> cases config : outputs.config <;>
    cases environment : outputs.environment <;>
      simp [applicable, among, Source.all, of?, nameless, config, environment]

/-- Sources of a few are sources of all. -/
theorem among_subset_applicable {sources : List Source} {tried : Source × String}
    (member : tried ∈ outputs.among item sources) : tried ∈ outputs.applicable item := by
  obtain ⟨source, -, given⟩ := List.mem_filterMap.mp member
  obtain ⟨output, applies, rfl⟩ := Option.map_eq_some_iff.mp given
  exact mem_applicable.mpr applies

/-- What is among some sources depends on their outputs only. -/
theorem among_congr {sources : List Source}
    (same : ∀ source ∈ sources, others.of? item source = outputs.of? item source) :
    others.among item sources = outputs.among item sources :=
  List.filterMap_congr fun source member => by rw [same source member]

end Outputs

namespace TestItem

variable {item : TestItem} {source : Source} {output : String}

/-- The locator of an item is found in the output of a source, as a single value. -/
def FoundIn (item : TestItem) (tried : Source × String) : Prop :=
  item.Locates tried.1 (trimmedOutput tried.2)

/-- Testing an item on the output of a source is no fault, and its locator is not found there. -/
def MissingIn (item : TestItem) (tried : Source × String) : Prop :=
  ¬ item.FoundIn tried ∧ ∃ outcome, item.evaluate tried.1 false tried.2 = .ok outcome

instance (item : TestItem) (tried : Source × String) : Decidable (item.FoundIn tried) :=
  inferInstanceAs (Decidable (item.Locates _ _))

/-- A locator is found in a single output exactly if looking for it gives a value. -/
theorem found_iff_foundIn {outcome : TestOutcome}
    (answered : item.evaluate source false output = .ok outcome) :
    outcome.found = true ↔ item.FoundIn (source, output) := by
  rw [evaluate_single] at answered
  cases tested : item.evaluateLine source (trimmedOutput output) with
  | error fault => simp [tested, Except.map] at answered
  | ok reading =>
      rw [tested] at answered
      have found : outcome.found = reading.found := by
        rw [← Except.ok.inj answered]
        split <;> rfl
      rw [found]
      exact (evaluateLine_reading tested).found

/-- What is found is reported as found. -/
theorem FoundIn.evaluate (found : item.FoundIn (source, output)) :
    ∃ outcome, item.evaluate source false output = .ok outcome ∧ outcome.found = true := by
  obtain ⟨value, given⟩ := Option.isSome_iff_exists.mp found
  obtain ⟨outcome, answered⟩ : ∃ outcome, item.evaluate source false output = .ok outcome :=
    ⟨_, by rw [evaluate_single, evaluateLine_of_find (find_of_value? given)]; rfl⟩
  exact ⟨outcome, answered, (found_iff_foundIn answered).mpr found⟩

/-- A source without the locator is passed over. -/
theorem MissingIn.passedOver {tried : Source × String} (missing : item.MissingIn tried) :
    item.PassedOver false tried := by
  obtain ⟨absent, outcome, answered⟩ := missing
  exact ⟨outcome, answered, Bool.eq_false_iff.mpr (mt (found_iff_foundIn answered).mp absent)⟩

/-- A path that cannot be read is a fault of testing the item on any configuration. -/
theorem evaluate_config_of_malformed {multiple : Bool} {malformed : Path.Malformed}
    (pathed : item.path ≠ "") (unreadable : Path.Template.read? item.path = .error malformed) :
    item.evaluate .config multiple output = .error (.malformedPath malformed) := by
  have compiles : item.Compiles .config := by simp [Compiles, lookup, pathed, Lookup.Compiles]
  exact (evaluate_eq_error compiles).mpr
    (malformed_iff.mpr ⟨rfl, pathed, malformed, unreadable, rfl⟩)

end TestItem

namespace Check

variable {check : Check} {outputs : Outputs} {item : TestItem} {source : Source} {output : String}

/-- An answer of a source ends the search if something is found in it. -/
theorem resolveFrom_of_answered {initial : TestOutcome × Source} {rest : List Source}
    {outcome : TestOutcome} (applies : outputs.of? item source = some output)
    (answered : item.evaluate source check.multipleValues output = .ok outcome) :
    check.resolveFrom outputs item initial (source :: rest) =
      if outcome.found then .ok (outcome, source)
      else check.resolveFrom outputs item (outcome, source) rest := by
  rw [resolveFrom, applies]
  simp only [answered]
  rfl

/-- Sources without outputs leave the answer as it is. -/
theorem resolveFrom_of_none {sources : List Source} {initial : TestOutcome × Source}
    (none : ∀ source ∈ sources, outputs.of? item source = none) :
    check.resolveFrom outputs item initial sources = .ok initial := by
  induction sources with
  | nil => rfl
  | cons source sources ih =>
      obtain ⟨skipped, others⟩ := List.forall_mem_cons.mp none
      simpa only [resolveFrom, skipped] using ih others

/-- Sources that are passed over leave the item to the sources behind them. -/
theorem resolveFrom_append {first rest : List Source} {initial : TestOutcome × Source}
    (passed : ∀ tried ∈ outputs.among item first, item.PassedOver check.multipleValues tried) :
    ∃ last, check.resolveFrom outputs item initial (first ++ rest) =
      check.resolveFrom outputs item last rest := by
  induction first generalizing initial with
  | nil => exact ⟨initial, rfl⟩
  | cons source first ih =>
      cases applies : outputs.of? item source with
      | none =>
          rw [Outputs.among_cons_of_none applies] at passed
          simpa only [List.cons_append, resolveFrom, applies] using ih passed
      | some output =>
          rw [Outputs.among_cons_of_some applies] at passed
          obtain ⟨⟨outcome, answered, missed⟩, others⟩ := List.forall_mem_cons.mp passed
          rw [List.cons_append, resolveFrom_of_answered applies answered, missed]
          exact ih others

/-- A source is reached if those before it are passed over. -/
theorem resolve_of_passed
    (passed : ∀ tried ∈ outputs.among item source.earlier,
      item.PassedOver check.multipleValues tried) :
    ∃ last, check.resolve outputs item =
      check.resolveFrom outputs item last (source :: source.later) := by
  rw [resolve, source.all_eq]
  exact resolveFrom_append passed

/-- If the sources before are passed over, a source with an answer decides what follows. -/
theorem resolve_of_answered {outcome : TestOutcome}
    (applies : outputs.of? item source = some output)
    (passed : ∀ tried ∈ outputs.among item source.earlier,
      item.PassedOver check.multipleValues tried)
    (answered : item.evaluate source check.multipleValues output = .ok outcome) :
    check.resolve outputs item = if outcome.found then .ok (outcome, source)
      else check.resolveFrom outputs item (outcome, source) source.later := by
  obtain ⟨last, reached⟩ := resolve_of_passed passed
  rw [reached, resolveFrom_of_answered applies answered]

/-- If the sources before are passed over, a fault on a source is a fault of the item. -/
theorem resolve_of_fault {fault : Lookup.Fault} (applies : outputs.of? item source = some output)
    (passed : ∀ tried ∈ outputs.among item source.earlier,
      item.PassedOver check.multipleValues tried)
    (failed : item.evaluate source check.multipleValues output = .error fault) :
    check.resolve outputs item = .error fault := by
  obtain ⟨last, reached⟩ := resolve_of_passed passed
  rw [reached, resolveFrom, applies]
  simp only [failed]
  rfl

/-- The item that cannot be resolved comes before an unknown combinator. -/
theorem verdict_of_unresolved {tests : TestSet} {before after : List TestItem}
    {fault : Lookup.Fault} (items : tests.items = before ++ item :: after)
    (resolved : ∀ other ∈ before, ∃ answer, check.resolve outputs other = .ok answer)
    (failed : check.resolve outputs item = .error fault) :
    check.verdict tests outputs = .error (.lookup fault) := by
  have given : tests.items.mapM (check.resolve outputs) = .error fault := by
    have : Nonempty (TestOutcome × Source) := ⟨(.empty, .primary)⟩
    choose! answer answered using resolved
    refine mapM_eq_error.mpr ⟨before.map fun other => (other, answer other), item, after, ?_, ?_,
      failed⟩
    · simp [items, Function.comp_def]
    · simpa using answered
  rw [verdict, given]
  rfl

/-- The first item that cannot be resolved makes the check fail. -/
theorem evaluate_of_unresolved {before after : List TestItem} {fault : Lookup.Fault}
    (items : check.items = before ++ item :: after)
    (resolved : ∀ other ∈ before, ∃ answer, check.resolve outputs other = .ok answer)
    (failed : check.resolve outputs item = .error fault) :
    check.evaluate outputs = check.decided?.getD (check.failing fault.message) := by
  have nonempty : check.items ≠ [] := by simp [items]
  obtain ⟨tests, given⟩ := tests_of_items_ne_nil nonempty
  rw [items_of_tests given] at items
  rw [evaluate, judge_of_error given (verdict_of_unresolved items resolved failed)]
  rfl

/-- If each output counts as a single value then an item is decided on the first source that has its
locator, whatever the sources behind it give, and on the last one if none has it. An item whose path
cannot be read has this fault if there is a configuration and the primary source does not have its
flag. The sources that a check records are those of its items. The first item with a fault makes the
check fail, unless its definition alone decides. -/
theorem first_source_with_locator (check : Check) (single : check.multipleValues = false)
    (outputs : Outputs) (item : TestItem) :
    outputs.applicable item = (.primary, outputs.audit) ::
      (outputs.config.toList.map (Source.config, ·) ++
        if item.environment = "" then []
        else outputs.environment.toList.map (Source.environment, ·)) ∧
    (∀ source output, outputs.of? item source = some output →
      (∀ tried ∈ outputs.among item source.earlier, item.MissingIn tried) →
      item.FoundIn (source, output) →
        ∃ outcome, item.evaluate source false output = .ok outcome ∧ outcome.found = true ∧
          ∀ others : Outputs, (∀ tried ∈ source :: source.earlier,
            others.of? item tried = outputs.of? item tried) →
              check.resolve others item = .ok (outcome, source)) ∧
    (∀ source output, outputs.of? item source = some output →
      (∀ tried ∈ source.later, outputs.of? item tried = none) →
      (∀ tried ∈ outputs.applicable item, item.MissingIn tried) →
        ∃ outcome, item.evaluate source false output = .ok outcome ∧ outcome.found = false ∧
          check.resolve outputs item = .ok (outcome, source)) ∧
    (∀ malformed, item.path ≠ "" → Path.Template.read? item.path = .error malformed →
      item.MissingIn (.primary, outputs.audit) → ∀ config environment,
        check.resolve ⟨outputs.audit, some config, environment⟩ item =
          .error (.malformedPath malformed)) ∧
    (∀ (index : Nat) recorded, check.items[index]? = some item →
      (check.evaluate outputs).reason = "" →
      (check.evaluate outputs).sources[index]? = some recorded →
        ∃ outcome, check.resolve outputs item = .ok (outcome, recorded)) ∧
    ∀ before after fault, check.items = before ++ item :: after →
      (∀ other ∈ before, ∃ answer, check.resolve outputs other = .ok answer) →
      check.resolve outputs item = .error fault →
        check.evaluate outputs = check.decided?.getD (check.failing fault.message) := by
  have passed {tried : Source × String} (missing : item.MissingIn tried) :
      item.PassedOver check.multipleValues tried := single ▸ missing.passedOver
  refine ⟨outputs.applicable_eq item, ?first, ?none, ?unreadable, ?recorded, ?failing⟩
  case first =>
    intro source output applies missing found
    obtain ⟨outcome, answered, found⟩ := found.evaluate
    refine ⟨outcome, answered, found, fun others same => ?_⟩
    obtain ⟨same, earlier⟩ := List.forall_mem_cons.mp same
    rw [← Outputs.among_congr earlier] at missing
    rw [resolve_of_answered (same.trans applies) (fun tried member => passed (missing tried member))
      (single ▸ answered), if_pos found]
  case none =>
    intro source output applies ends missing
    obtain ⟨outcome, answered, missed⟩ :=
      (missing _ (Outputs.mem_applicable.mpr applies)).passedOver
    refine ⟨outcome, answered, missed, ?_⟩
    have earlier : ∀ tried ∈ outputs.among item source.earlier,
        item.PassedOver check.multipleValues tried :=
      fun tried member => passed (missing tried (Outputs.among_subset_applicable member))
    rw [resolve_of_answered applies earlier (single ▸ answered), missed]
    exact resolveFrom_of_none ends
  case unreadable =>
    intro malformed pathed unreadable missing config environment
    have applies : (⟨outputs.audit, some config, environment⟩ : Outputs).of? item .config =
        some config := rfl
    refine resolve_of_fault applies ?_ (TestItem.evaluate_config_of_malformed pathed unreadable)
    intro tried member
    obtain rfl : tried = (.primary, outputs.audit) := List.mem_singleton.mp member
    exact passed missing
  case recorded =>
    intro index recorded placed silent record
    exact resolve_recorded silent placed record
  case failing =>
    intro before after fault items resolved failed
    exact evaluate_of_unresolved items resolved failed

/-- An item that asks for a log, which a flag or a variable names. -/
def logged : TestItem := ⟨"--log", "", "LOG", true, none⟩

/-- A check of a service that keeps a log. -/
def logging (items : List TestItem) : Check :=
  { Check.empty with tests := some ⟨items, .all⟩, scored := true }

/-- This item is found in the configuration before the environment, and a path that cannot be read
ends the search. -/
theorem first_source_with_locator_log :
    (∀ environment, (logging [logged]).resolve ⟨"kubelet", some "--log=/tmp", environment⟩ logged =
      .ok (⟨true, true, "--log=/tmp", "'--log' is present"⟩, .config)) ∧
    (logging [logged]).resolve ⟨"kubelet", some "", none⟩ logged =
      .ok (⟨false, false, "", "'--log' is present"⟩, .config) ∧
    ((logging [logged]).evaluate ⟨"kubelet", none, some "LOG=/tmp"⟩).sources = [.environment] ∧
    (∃ outcome, (logging [logged]).resolve ⟨"kubelet", none, some "LOG=/tmp"⟩ logged =
      .ok (outcome, .environment)) ∧
    ∀ config environment,
      (logging [.misspelt, logged]).resolve ⟨"kubelet", some config, environment⟩ .misspelt =
        .error (.malformedPath ⟨"{.tls[first]}", .invalidIndex "first"⟩) ∧
      (logging [.misspelt, logged]).evaluate ⟨"kubelet", some config, environment⟩ =
        ⟨.fail, "unable to parse path expression \"{.tls[first]}\": invalid array index 'first'",
          "", "", []⟩ := by
  have audit : logged.evaluate .primary false "kubelet" =
      .ok ⟨false, false, "kubelet", "'--log' is present"⟩ := rfl
  have primary : logged.MissingIn (.primary, "kubelet") := ⟨by decide, _, audit⟩
  have passes : (logging [logged]).evaluate ⟨"kubelet", none, some "LOG=/tmp"⟩ =
      ⟨.pass, "", "LOG=/tmp", "'LOG' is present", [.environment]⟩ := by decide
  refine ⟨fun environment => ?found, ?none, ?sources, ?recorded, fun config environment => ?failing⟩
  case found =>
    have tested : logged.evaluate .config false "--log=/tmp" =
        .ok ⟨true, true, "--log=/tmp", "'--log' is present"⟩ := rfl
    obtain ⟨-, first, -⟩ := first_source_with_locator (logging [logged]) rfl
      ⟨"kubelet", some "--log=/tmp", environment⟩ logged
    obtain ⟨outcome, answered, -, kept⟩ := first .config "--log=/tmp" rfl
      (List.forall_mem_singleton.mpr primary) (by decide)
    obtain rfl := Except.ok.inj (answered.symm.trans tested)
    exact kept _ fun _ _ => rfl
  case none =>
    have tested : logged.evaluate .config false "" =
        .ok ⟨false, false, "", "'--log' is present"⟩ := rfl
    obtain ⟨-, -, last, -⟩ := first_source_with_locator (logging [logged]) rfl
      ⟨"kubelet", some "", none⟩ logged
    have missing : ∀ tried ∈ Outputs.applicable ⟨"kubelet", some "", none⟩ logged,
        logged.MissingIn tried := by
      have config : logged.MissingIn (.config, "") := ⟨by decide, _, tested⟩
      exact List.forall_mem_cons.mpr ⟨primary, List.forall_mem_singleton.mpr config⟩
    obtain ⟨outcome, answered, -, resolved⟩ := last .config "" rfl
      (List.forall_mem_singleton.mpr rfl) missing
    obtain rfl := Except.ok.inj (answered.symm.trans tested)
    exact resolved
  case sources => exact congrArg CheckOutcome.sources passes
  case recorded =>
    obtain ⟨-, -, -, -, recorded, -⟩ := first_source_with_locator (logging [logged]) rfl
      ⟨"kubelet", none, some "LOG=/tmp"⟩ logged
    exact recorded 0 .environment rfl (congrArg CheckOutcome.reason passes)
      (by rw [passes]; rfl)
  case failing =>
    have unset : TestItem.misspelt.evaluate .primary false "kubelet" =
        .ok ⟨false, false, "kubelet", "'--tls' is present"⟩ := rfl
    have primary : TestItem.misspelt.MissingIn (.primary, "kubelet") := ⟨by decide, _, unset⟩
    obtain ⟨-, -, -, unreadable, -, failing⟩ := first_source_with_locator
      (logging [.misspelt, logged]) rfl ⟨"kubelet", some config, environment⟩ .misspelt
    have failed := unreadable ⟨"{.tls[first]}", .invalidIndex "first"⟩ (by decide) rfl
      primary config environment
    refine ⟨failed, (failing [] [logged] _ rfl nofun failed).trans ?_⟩
    decide

end Check

end HostAudit
