import HostAudit.Proofs.Counters
import Mathlib.Data.List.Forall2

/-
This file tells what the results of a run hold: a report on each catalog, in it each group of which
a check was selected, and in it each selected check with what it came to. Nothing is lost, and
nothing is told twice or in another order, apart from the order of the reports.
-/

namespace HostAudit

namespace Filter

/-- A filter that names groups selects checks of these groups only, one that names checks selects
these only, and one that asks for scored checks only, or for the others only, selects only those. -/
def Selects (filter : Filter) (group : Group) (check : Check) : Prop :=
  (filter.groups = [] ∨ group.id ∈ filter.groups) ∧
    (filter.checks = [] ∨ check.id ∈ filter.checks) ∧
    (filter.onlyScored = true → filter.onlyUnscored = false → check.scored = true) ∧
    (filter.onlyUnscored = true → filter.onlyScored = false → check.scored = false)

instance (filter : Filter) (group : Group) (check : Check) :
    Decidable (filter.Selects group check) := inferInstanceAs (Decidable (_ ∧ _))

/-- No names are all names. -/
theorem lists_iff {names : List String} {id : String} :
    lists names id = true ↔ names = [] ∨ id ∈ names := by
  simp [lists]

/-- A check is accepted exactly if the filter selects it. -/
theorem accepts_iff {filter : Filter} {group : Group} {check : Check} :
    filter.accepts group check = true ↔ filter.Selects group check := by
  rw [accepts, Bool.and_eq_true, Bool.and_eq_true, lists_iff, lists_iff, Selects, scoring,
    and_assoc]
  refine and_congr_right fun _ => and_congr_right fun _ => ?_
  cases filter.onlyScored <;> cases filter.onlyUnscored <;> simp

/-- The selected checks of a group. -/
def selectedChecks (filter : Filter) (group : Group) : List Check :=
  group.checks.filter fun check => filter.Selects group check

/-- The groups of which a check is selected. -/
def selectedGroups (filter : Filter) (catalog : Catalog) : List Group :=
  catalog.groups.filter fun group => ∃ check ∈ group.checks, filter.Selects group check

/-- A group result presents the selected checks of a group in order, as `tells` says of each. -/
structure PresentsGroup (filter : Filter) (tells : Group → Check → CheckResult → Prop)
    (group : Group) (result : GroupResult) : Prop where
  id : result.id = group.id
  text : result.text = group.text
  checks : List.Forall₂ (tells group) (filter.selectedChecks group) result.checks

/-- A report presents the groups of a catalog of which a check is selected, in order, and in them
the selected checks. -/
structure Presents (filter : Filter) (tells : Group → Check → CheckResult → Prop)
    (catalog : Catalog) (report : CatalogReport) : Prop where
  id : report.id = catalog.id
  version : report.version = catalog.version
  text : report.text = catalog.text
  target : report.target = catalog.target
  groups : List.Forall₂ (filter.PresentsGroup tells) (filter.selectedGroups catalog) report.groups

/-- What presents a selection still does so if less is asked of the results. -/
theorem Presents.mono {filter : Filter} {tells told : Group → Check → CheckResult → Prop}
    {catalog : Catalog} {report : CatalogReport} (presents : filter.Presents tells catalog report)
    (weaker : ∀ group check result, tells group check result → told group check result) :
    filter.Presents told catalog report where
  id := presents.id
  version := presents.version
  text := presents.text
  target := presents.target
  groups := presents.groups.imp fun group _ shown =>
    ⟨shown.id, shown.text, shown.checks.imp (weaker group)⟩

end Filter

/-- Adding results counts their states and puts them behind the others. -/
theorem GroupResult.foldl_add (group : GroupResult) (results : List CheckResult) :
    results.foldl add group = { group with
      summary := (results.map CheckResult.state).foldl Summary.record group.summary
      checks := group.checks ++ results } := by
  induction results generalizing group with
  | nil => simp
  | cons result results ih => simp [ih, add]

/-- Groups without checks are not added. -/
theorem CatalogReport.foldl_add (report : CatalogReport) (groups : List GroupResult) :
    groups.foldl add report = { report with
      groups := report.groups ++ groups.filter (·.checks ≠ [])
      summary := ((groups.filter (·.checks ≠ [])).map GroupResult.summary).foldl Summary.merge
        report.summary } := by
  induction groups generalizing report with
  | nil => simp
  | cons group groups ih =>
      rw [List.foldl_cons, ih]
      by_cases empty : group.checks = []
      · simp [add_of_empty report empty, empty]
      · simp [add_of_nonempty report empty, empty]

/-- The results of reports are these reports with the sum of their counters. -/
theorem AuditResults.ofReports_eq (reports : List CatalogReport) :
    ofReports reports =
      { reports := reports
        totals := (reports.map CatalogReport.summary).foldl Summary.merge .zero
        runs := reports.map fun report => (report.id, report.summary.total) } := by
  have folded (results : AuditResults) :
      reports.foldl (fun (results : AuditResults) report => (results.note report).add report)
          results =
        { reports := results.reports ++ reports
          totals := (reports.map CatalogReport.summary).foldl Summary.merge results.totals
          runs :=
            results.runs ++ reports.map fun report => (report.id, report.summary.total) } := by
    induction reports generalizing results with
    | nil => simp
    | cons report reports ih =>
        rw [List.foldl_cons, ih]
        simp [add, note]
  rw [ofReports, folded]
  simp [empty]

namespace Audit

variable {audit : Audit} {probe : Probe} {catalog : Catalog} {catalogs : List Catalog}

/-- A group has the result of each of its checks that the filter selects, in order. -/
theorem runGroup_checks (audit : Audit) (probe : Probe) (group : Group) :
    (audit.runGroup probe group).checks =
      (audit.filter.selectedChecks group).map fun check =>
        Audit.result probe (audit.prepare group check) := by
  have same : group.checks.filter (audit.filter.accepts group) =
      audit.filter.selectedChecks group := by
    refine List.filter_congr fun check _ => ?_
    rw [Bool.eq_iff_iff, Filter.accepts_iff, decide_eq_true_iff]
  rw [runGroup, GroupResult.foldl_add, selected, same]
  simp [GroupResult.start]

/-- A group has results exactly if the filter selects one of its checks. -/
theorem runGroup_checks_ne_nil {group : Group} :
    (audit.runGroup probe group).checks ≠ [] ↔
      ∃ check ∈ group.checks, audit.filter.Selects group check := by
  rw [runGroup_checks, Ne, List.map_eq_nil_iff, Filter.selectedChecks, List.filter_eq_nil_iff]
  simp

/-- A report has the groups with a selected check, in order. -/
theorem runCatalog_groups (audit : Audit) (probe : Probe) (catalog : Catalog) :
    (audit.runCatalog probe catalog).groups =
      (audit.filter.selectedGroups catalog).map (audit.runGroup probe) := by
  rw [runCatalog, CatalogReport.foldl_add, List.filter_map]
  simp only [CatalogReport.start, List.nil_append, Filter.selectedGroups]
  congr 1
  refine List.filter_congr fun group _ => ?_
  rw [Function.comp_apply, decide_eq_decide]
  exact runGroup_checks_ne_nil

/-- The results of a group are those of its selected checks as the audit has prepared them. -/
theorem runGroup_presents (audit : Audit) (probe : Probe) (group : Group) :
    audit.filter.PresentsGroup
      (fun group check result => result = Audit.result probe (audit.prepare group check)) group
      (audit.runGroup probe group) where
  id := by rw [runGroup, GroupResult.foldl_add]; rfl
  text := by rw [runGroup, GroupResult.foldl_add]; rfl
  checks := by
    rw [runGroup_checks, List.forall₂_map_right_iff, List.forall₂_same]
    exact fun check _ => rfl

/-- The report of a catalog presents the selection of the filter. -/
theorem runCatalog_presents (audit : Audit) (probe : Probe) (catalog : Catalog) :
    audit.filter.Presents
      (fun group check result => result = Audit.result probe (audit.prepare group check)) catalog
      (audit.runCatalog probe catalog) where
  id := by rw [runCatalog, CatalogReport.foldl_add]; rfl
  version := by rw [runCatalog, CatalogReport.foldl_add]; rfl
  text := by rw [runCatalog, CatalogReport.foldl_add]; rfl
  target := by rw [runCatalog, CatalogReport.foldl_add]; rfl
  groups := by
    rw [runCatalog_groups, List.forall₂_map_right_iff, List.forall₂_same]
    exact fun group _ => audit.runGroup_presents probe group

/-- A report has the id of its catalog. -/
theorem runCatalog_id (audit : Audit) (probe : Probe) (catalog : Catalog) :
    (audit.runCatalog probe catalog).id = catalog.id :=
  (audit.runCatalog_presents probe catalog).id

/-- The checks of a report are those selected from its groups, in order. -/
theorem runCatalog_checks (audit : Audit) (probe : Probe) (catalog : Catalog) :
    (audit.runCatalog probe catalog).checks = catalog.groups.flatMap fun group =>
      (audit.filter.selectedChecks group).map fun check =>
        Audit.result probe (audit.prepare group check) := by
  rw [CatalogReport.checks, runCatalog_groups, List.flatMap_map]
  simp only [runGroup_checks]
  rw [Filter.selectedGroups]
  induction catalog.groups with
  | nil => rfl
  | cons group groups ih =>
      by_cases selected : ∃ check ∈ group.checks, audit.filter.Selects group check
      · rw [List.filter_cons_of_pos (by simpa using selected), List.flatMap_cons,
          List.flatMap_cons, ih]
      · -- A group that is left out has no selected checks.
        have none : audit.filter.selectedChecks group = [] := by
          simpa [Filter.selectedChecks, List.filter_eq_nil_iff] using selected
        rw [List.filter_cons_of_neg (by simpa using selected), List.flatMap_cons, ih, none]
        rfl

/-- The number of checks that were run for a catalog is the number of its selected checks. -/
theorem runCatalog_total (audit : Audit) (probe : Probe) (catalog : Catalog) :
    (audit.runCatalog probe catalog).summary.total =
      (catalog.groups.flatMap audit.filter.selectedChecks).length := by
  rw [(audit.runCatalog_built probe catalog).tallied.counters.total, runCatalog_checks,
    List.length_flatMap, List.length_flatMap]
  simp only [List.length_map]

/-- A run notes for each catalog how many checks were selected from it. -/
theorem run_runs (audit : Audit) (probe : Probe) (catalogs : List Catalog) :
    (audit.run probe catalogs).runs = catalogs.map fun catalog =>
      (catalog.id, (catalog.groups.flatMap audit.filter.selectedChecks).length) := by
  have runs : (audit.run probe catalogs).runs =
      (AuditResults.ofReports (catalogs.map (audit.runCatalog probe))).runs := rfl
  simp only [runs, AuditResults.ofReports_eq, List.map_map]
  refine List.map_congr_left fun catalog _ => ?_
  rw [Function.comp_apply, runCatalog_id, runCatalog_total]

/-- The reports of a run are those of its catalogs, sorted. -/
theorem run_reports (audit : Audit) (probe : Probe) (catalogs : List Catalog) :
    (audit.run probe catalogs).reports =
      (catalogs.map (audit.runCatalog probe)).mergeSort CatalogReport.precedes := by
  rw [run, AuditResults.sort_reports, AuditResults.ofReports_eq]

/-- The checks of a run are those selected from the groups of its catalogs. -/
theorem mem_run_checks {result : CheckResult} :
    result ∈ (audit.run probe catalogs).checks ↔
      ∃ catalog ∈ catalogs, ∃ group ∈ catalog.groups,
        ∃ check ∈ audit.filter.selectedChecks group,
          result = Audit.result probe (audit.prepare group check) := by
  simp only [AuditResults.checks, run_reports, List.mem_flatMap, List.mem_mergeSort, List.mem_map]
  constructor
  · rintro ⟨_, ⟨catalog, given, rfl⟩, inside⟩
    rw [runCatalog_checks] at inside
    obtain ⟨group, member, shown⟩ := List.mem_flatMap.mp inside
    obtain ⟨check, selected, rfl⟩ := List.mem_map.mp shown
    exact ⟨catalog, given, group, member, check, selected, rfl⟩
  · rintro ⟨catalog, given, group, member, check, selected, rfl⟩
    refine ⟨_, ⟨catalog, given, rfl⟩, ?_⟩
    rw [runCatalog_checks]
    exact List.mem_flatMap.mpr ⟨group, member, List.mem_map_of_mem selected⟩

/-- The mark of a check when it is run: a check that the audit skips is marked so. -/
def markOf (audit : Audit) (group : Group) (check : Check) : Option Mark :=
  if audit.skips group check then some .skip else check.mark

/-- A result tells of a check what its definition says of it, and what the check came to when it was
run with its mark. -/
structure Tells (audit : Audit) (probe : Probe) (group : Group) (check : Check)
    (result : CheckResult) : Prop where
  id : result.id = check.id
  text : result.text = check.text
  command : result.audit = check.audit
  configCommand : result.auditConfig = check.auditConfig
  environmentCommand : result.auditEnvironment = check.auditEnvironment
  remediation : result.remediation = check.remediation
  scored : result.scored = check.scored
  mark : result.mark = audit.markOf group check
  outcome : (⟨result.state, result.reason, result.actual, result.expected, result.sources⟩ :
    CheckOutcome) = ({ check with mark := audit.markOf group check } : Check).run probe

/-- Preparing a check sets its mark. -/
theorem prepare_eq (audit : Audit) (group : Group) (check : Check) :
    audit.prepare group check = { check with mark := audit.markOf group check } := by
  rw [prepare, markOf]
  split <;> rfl

/-- A result tells of its check and of nothing else. -/
theorem tells_result (audit : Audit) (probe : Probe) (group : Group) (check : Check) :
    audit.Tells probe group check (Audit.result probe (audit.prepare group check)) := by
  rw [prepare_eq]
  generalize marked : audit.markOf group check = mark
  refine ⟨rfl, rfl, rfl, rfl, rfl, rfl, rfl, ?mark, ?outcome⟩
  case mark => exact marked.symm
  case outcome =>
    rw [marked]
    rfl

/-- A run gives one report on each catalog, sorted by ids, and reports with one id stay in the order
of their catalogs. Each report presents the groups of its catalog of which a check is selected, and
in them the selected checks, in the order of the catalog, and what each came to. The run notes for
each catalog in turn how many checks were selected. -/
theorem run_presents_selection (audit : Audit) (probe : Probe) (catalogs : List Catalog) :
    let results := audit.run probe catalogs
    results.reports.Perm (catalogs.map (audit.runCatalog probe)) ∧
    results.reports.Pairwise (fun first second => first.precedes second = true) ∧
    (∀ id, results.reports.filter (·.id = id) =
      (catalogs.filter (·.id = id)).map (audit.runCatalog probe)) ∧
    (∀ catalog, audit.filter.Presents (audit.Tells probe) catalog
      (audit.runCatalog probe catalog)) ∧
    results.runs = catalogs.map fun catalog =>
      (catalog.id, (catalog.groups.flatMap audit.filter.selectedChecks).length) := by
  intro results
  have unsorted : (AuditResults.ofReports (catalogs.map (audit.runCatalog probe))).reports =
      catalogs.map (audit.runCatalog probe) := by rw [AuditResults.ofReports_eq]
  refine ⟨?permuted, AuditResults.sort_pairwise _, ?stable, ?presented,
    audit.run_runs probe catalogs⟩
  case permuted =>
    rw [← unsorted]
    exact AuditResults.sort_perm _
  case stable =>
    intro id
    have kept := AuditResults.sort_stable
      (AuditResults.ofReports (catalogs.map (audit.runCatalog probe))) id
    rw [unsorted, List.filter_map] at kept
    refine kept.trans (congrArg _ (List.filter_congr fun catalog _ => ?_))
    rw [Function.comp_apply, runCatalog_id]
  case presented =>
    intro catalog
    refine (audit.runCatalog_presents probe catalog).mono fun group check result told => ?_
    rw [told]
    exact audit.tells_result probe group check

end Audit

end HostAudit
