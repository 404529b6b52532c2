import HostAudit.Audit
import HostAudit.Proofs.ReportOrder

/-
This file proves that the counters at every level of audit results are those of the checks below
them, in whatever steps the results were built.
-/

namespace HostAudit

/-- A summary counts some checks: it has their number for each state, and their number in all. -/
structure Summary.Counts (summary : Summary) (checks : List CheckResult) : Prop where
  each : ∀ state, summary.count state = checks.countP fun check => check.state = state
  total : summary.total = checks.length

namespace Summary

variable {summary first second : Summary} {checks others : List CheckResult}

/-- A recorded state adds one to the total. -/
theorem total_record (summary : Summary) (state : State) :
    (summary.record state).total = summary.total + 1 := by
  cases state <;> simp only [record, total] <;> omega

/-- Totals are added when summaries are merged. -/
theorem total_merge (first second : Summary) :
    (first.merge second).total = first.total + second.total := by
  simp only [merge, total]
  omega

theorem counts_zero : zero.Counts [] := ⟨fun state => by simp, rfl⟩

/-- Recording the state of one more check counts it as well. -/
theorem Counts.record (counts : summary.Counts checks) (result : CheckResult) :
    (summary.record result.state).Counts (checks ++ [result]) where
  each state := by simp [count_record, counts.each, List.countP_append, List.countP_singleton]
  total := by simp [total_record, counts.total]

/-- Merged summaries count both lists of checks. -/
theorem Counts.merge (left : first.Counts checks) (right : second.Counts others) :
    (first.merge second).Counts (checks ++ others) where
  each state := by rw [count_merge, left.each, right.each, List.countP_append]
  total := by rw [total_merge, left.total, right.total, List.length_append]

/-- The order of the checks does not matter. -/
theorem Counts.of_perm (counts : summary.Counts checks) (same : checks.Perm others) :
    summary.Counts others where
  each state := by rw [counts.each, same.countP_eq]
  total := by rw [counts.total, same.length_eq]

/-- A counter is positive exactly if a check ended in this state. -/
theorem Counts.pos_iff (counts : summary.Counts checks) (state : State) :
    0 < summary.count state ↔ ∃ check ∈ checks, check.state = state := by
  simp [counts.each, List.countP_pos_iff]

end Summary

/-- Group results that are built by adding check results one after another. -/
inductive GroupResult.Built : GroupResult → Prop where
  | start (id text : String) : Built (.start id text)
  | add {group : GroupResult} (built : Built group) (result : CheckResult) :
      Built (group.add result)

/-- Reports that are built by adding group results. -/
inductive CatalogReport.Built : CatalogReport → Prop where
  | start (id version text target : String) : Built (.start id version text target)
  | add {report : CatalogReport} {group : GroupResult} (built : Built report)
      (part : group.Built) : Built (report.add group)

/-- Audit results that are built by adding reports, noting runs and putting the reports in order. -/
inductive AuditResults.Built : AuditResults → Prop where
  | empty : Built .empty
  | add {results : AuditResults} {report : CatalogReport} (built : Built results)
      (part : report.Built) : Built (results.add report)
  | note {results : AuditResults} (built : Built results) (report : CatalogReport) :
      Built (results.note report)
  | sort {results : AuditResults} (built : Built results) : Built results.sort

/-- The counters of a report and of its groups are those of their checks, and no group is empty. -/
structure CatalogReport.Tallied (report : CatalogReport) : Prop where
  counters : report.summary.Counts report.checks
  groups : ∀ group ∈ report.groups, group.summary.Counts group.checks ∧ group.checks ≠ []

/-- The counters at every level are those of the checks. -/
structure AuditResults.Tallied (results : AuditResults) : Prop where
  counters : results.totals.Counts results.checks
  reports : ∀ report ∈ results.reports, report.Tallied

namespace GroupResult

/-- The counters of a group that was built are those of its checks. -/
theorem Built.counts {group : GroupResult} (built : group.Built) :
    group.summary.Counts group.checks := by
  induction built with
  | start id text => exact Summary.counts_zero
  | add built result counts => exact counts.record result

theorem built_foldl {group : GroupResult} (built : group.Built) (results : List CheckResult) :
    (results.foldl add group).Built := by
  induction results generalizing group with
  | nil => exact built
  | cons result results ih => exact ih (built.add result)

end GroupResult

namespace CatalogReport

/-- A group without checks leaves a report as it is. -/
theorem add_of_empty (report : CatalogReport) {group : GroupResult} (empty : group.checks = []) :
    report.add group = report := by
  rw [add, empty]
  rfl

/-- A group with checks comes last, and its counters are added. -/
theorem add_of_nonempty (report : CatalogReport) {group : GroupResult}
    (nonempty : group.checks ≠ []) :
    report.add group = { report with
      groups := report.groups ++ [group]
      summary := report.summary.merge group.summary } := by
  rw [add, if_neg (by simpa using nonempty)]

/-- Adding a group keeps the counters right, as an empty group is not added. -/
theorem Tallied.add {report : CatalogReport} {group : GroupResult} (tallied : report.Tallied)
    (counts : group.summary.Counts group.checks) : (report.add group).Tallied := by
  by_cases empty : group.checks = []
  · rwa [add_of_empty report empty]
  · rw [add_of_nonempty report empty]
    refine ⟨?counters, ?groups⟩
    case counters =>
      have appended := tallied.counters.merge counts
      simpa [checks] using appended
    case groups =>
      intro member inside
      rcases List.mem_append.mp inside with earlier | last
      · exact tallied.groups member earlier
      · rw [List.mem_singleton.mp last]
        exact ⟨counts, empty⟩

/-- The counters of a report that was built are those of its checks, and so are those of its
groups. -/
theorem Built.tallied {report : CatalogReport} (built : report.Built) : report.Tallied := by
  induction built with
  | start id version text target => exact ⟨Summary.counts_zero, nofun⟩
  | add built part tallied => exact tallied.add part.counts

theorem built_foldl {report : CatalogReport} (built : report.Built) {groups : List GroupResult}
    (parts : ∀ group ∈ groups, group.Built) : (groups.foldl add report).Built := by
  induction groups generalizing report with
  | nil => exact built
  | cons group groups ih =>
      obtain ⟨first, others⟩ := List.forall_mem_cons.mp parts
      exact ih (built.add first) others

end CatalogReport

namespace AuditResults

/-- Adding a report keeps the counters of audit results right. -/
theorem Tallied.add {results : AuditResults} {report : CatalogReport} (tallied : results.Tallied)
    (part : report.Tallied) : (results.add report).Tallied where
  counters := by
    have appended := tallied.counters.merge part.counters
    simpa [AuditResults.add, checks] using appended
  reports := by
    intro member inside
    rcases List.mem_append.mp inside with earlier | last
    · exact tallied.reports member earlier
    · rwa [List.mem_singleton.mp last]

/-- Reports in another order have the same checks in another order. -/
theorem Tallied.sort {results : AuditResults} (tallied : results.Tallied) :
    results.sort.Tallied where
  counters := tallied.counters.of_perm (results.sort_perm.symm.flatMap_right _)
  reports report member := tallied.reports report (results.sort_perm.mem_iff.mp member)

/-- The counters of results that were built are those of their checks at every level. -/
theorem Built.tallied {results : AuditResults} (built : results.Built) : results.Tallied := by
  induction built with
  | empty => exact ⟨Summary.counts_zero, nofun⟩
  | add built part tallied => exact tallied.add part.tallied
  | note built report tallied => exact ⟨tallied.counters, tallied.reports⟩
  | sort built tallied => exact tallied.sort

/-- There are failures exactly if a check failed. -/
theorem Tallied.hasFailures_iff {results : AuditResults} (tallied : results.Tallied) :
    results.hasFailures = true ↔ ∃ check ∈ results.checks, check.state = .fail := by
  rw [← tallied.counters.pos_iff, hasFailures, decide_eq_true_iff]
  rfl

/-- There are warnings exactly if a check warned. -/
theorem Tallied.hasWarnings_iff {results : AuditResults} (tallied : results.Tallied) :
    results.hasWarnings = true ↔ ∃ check ∈ results.checks, check.state = .warn := by
  rw [← tallied.counters.pos_iff, hasWarnings, decide_eq_true_iff]
  rfl

/-- Results to which reports were added one after another were built. -/
theorem built_foldl {results : AuditResults} (built : results.Built)
    {reports : List CatalogReport} (parts : ∀ report ∈ reports, report.Built) :
    (reports.foldl (fun (results : AuditResults) report => (results.note report).add report)
      results).Built := by
  induction reports generalizing results with
  | nil => exact built
  | cons report reports ih =>
      obtain ⟨first, others⟩ := List.forall_mem_cons.mp parts
      exact ih ((built.note report).add first) others

end AuditResults

namespace Audit

/-- The results of a group are built by adding those of its checks. -/
theorem runGroup_built (audit : Audit) (probe : Probe) (group : Group) :
    (audit.runGroup probe group).Built :=
  GroupResult.built_foldl (.start group.id group.text) _

/-- A report is built by adding the results of its groups. -/
theorem runCatalog_built (audit : Audit) (probe : Probe) (catalog : Catalog) :
    (audit.runCatalog probe catalog).Built := by
  refine CatalogReport.built_foldl (.start _ _ _ _) fun part member => ?_
  obtain ⟨group, -, rfl⟩ := List.mem_map.mp member
  exact audit.runGroup_built probe group

/-- The results of a run are built step by step, so their counters are right. -/
theorem run_built (audit : Audit) (probe : Probe) (catalogs : List Catalog) :
    (audit.run probe catalogs).Built := by
  refine (AuditResults.built_foldl .empty fun report member => ?_).sort
  obtain ⟨catalog, -, rfl⟩ := List.mem_map.mp member
  exact audit.runCatalog_built probe catalog

end Audit

/-- However results are built, every counter is the number of checks below it that ended in its
state, no group is empty, and there are failures or warnings exactly when some check failed or
warned. A group without checks changes nothing. What an audit gives is built in this way. -/
theorem counters_equal_checks :
    (∀ group : GroupResult, group.Built → group.summary.Counts group.checks) ∧
    (∀ report : CatalogReport, report.Built → report.Tallied) ∧
    (∀ results : AuditResults, results.Built → results.Tallied ∧
      (results.hasFailures = true ↔ ∃ check ∈ results.checks, check.state = .fail) ∧
      (results.hasWarnings = true ↔ ∃ check ∈ results.checks, check.state = .warn)) ∧
    (∀ (report : CatalogReport) (group : GroupResult), group.checks = [] →
      report.add group = report) ∧
    ∀ (audit : Audit) (probe : Probe) (catalogs : List Catalog),
      (audit.run probe catalogs).Built ∧
      ∀ catalog, (audit.runCatalog probe catalog).Built := by
  refine ⟨fun group built => built.counts, fun report built => built.tallied, ?results,
    fun report group empty => report.add_of_empty empty, ?run⟩
  case results =>
    intro results built
    exact ⟨built.tallied, built.tallied.hasFailures_iff, built.tallied.hasWarnings_iff⟩
  case run =>
    intro audit probe catalogs
    exact ⟨audit.run_built probe catalogs, audit.runCatalog_built probe⟩

/-- A group of which one check passed and one warned. -/
def files : GroupResult :=
  ((GroupResult.start "1.1" "Files").add (.ofOutcome .empty (.ofReason .pass ""))).add
    (.ofOutcome .empty (.ofReason .warn "No tests defined"))

/-- A report on that group, and on another that has no checks. -/
def filesReport : CatalogReport :=
  ((CatalogReport.start "10" "1.8" "Master" "master").add files).add (.start "1.2" "Empty")

theorem counters_equal_checks_files :
    let other := CatalogReport.start "2" "1.8" "Node" "node"
    let results := ((AuditResults.empty.note filesReport).add filesReport).add other
    files.Built ∧ files.summary.Counts files.checks ∧
    filesReport.Built ∧ filesReport.Tallied ∧ filesReport.summary.total = 2 ∧
    results.sort.Built ∧ results.sort.Tallied ∧
    (results.sort.hasFailures = true ↔ ∃ check ∈ results.sort.checks, check.state = .fail) ∧
    filesReport.add (.start "1.3" "Other") = filesReport := by
  intro other results
  obtain ⟨group, report, all, empty, -⟩ := counters_equal_checks
  have files : files.Built := ((GroupResult.Built.start _ _).add _).add _
  have built : filesReport.Built := ((CatalogReport.Built.start _ _ _ _).add files).add (.start _ _)
  have sorted : results.sort.Built := ((AuditResults.Built.empty.note _).add built).add
    (.start _ _ _ _) |>.sort
  obtain ⟨tallied, fails, -⟩ := all _ sorted
  exact ⟨files, group _ files, built, report _ built, rfl, sorted, tallied, fails,
    empty filesReport _ rfl⟩

end HostAudit
