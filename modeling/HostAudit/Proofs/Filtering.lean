import HostAudit.Proofs.RunContents
import Mathlib.Data.List.Flatten

/-
This file tells what a filter does to a run: it leaves results out and changes nothing else. The
scored checks and the others make up a run between them.
-/

namespace HostAudit

/-- Two lists put together: the order says of each place whether the first list or the second one
has the next member. -/
def woven {A : Type} : List Bool → List A → List A → List A
  | true :: order, member :: first, second => member :: woven order first second
  | false :: order, first, member :: second => member :: woven order first second
  | _, _, _ => []

/-- A list is put together again from the members that a test keeps and those that it does not. -/
theorem woven_filter {A : Type} (keep : A → Bool) (members : List A) :
    woven (members.map keep) (members.filter keep) (members.filter (!keep ·)) = members := by
  induction members with
  | nil => rfl
  | cons member rest ih => cases kept : keep member <;> simp [woven, kept, ih]

namespace GroupResult

/-- A group result with those results only that `keep` keeps. -/
def keeping (keep : CheckResult → Bool) (group : GroupResult) : GroupResult :=
  (group.checks.filter keep).foldl add (start group.id group.text)

/-- The results that are kept are those of the group that are to be kept. -/
theorem keeping_checks (keep : CheckResult → Bool) (group : GroupResult) :
    (group.keeping keep).checks = group.checks.filter keep := by
  rw [keeping, foldl_add]
  rfl

end GroupResult

namespace CatalogReport

/-- A report with those results only that `keep` keeps, which is told the id of the group. Groups of
which no result is kept are left out. -/
def keeping (keep : String → CheckResult → Bool) (report : CatalogReport) : CatalogReport :=
  (report.groups.map fun group => group.keeping (keep group.id)).foldl add
    (start report.id report.version report.text report.target)

/-- Groups that have nothing to keep may be left out before as well as afterwards. -/
theorem foldl_add_nonempty {change : GroupResult → GroupResult}
    (empty : ∀ group : GroupResult, group.checks = [] → (change group).checks = [])
    (report : CatalogReport) (groups : List GroupResult) :
    ((groups.filter (·.checks ≠ [])).map change).foldl add report =
      (groups.map change).foldl add report := by
  induction groups generalizing report with
  | nil => rfl
  | cons group groups ih =>
      by_cases none : group.checks = []
      · rw [List.filter_cons_of_neg (by simpa using none), ih, List.map_cons, List.foldl_cons,
          add_of_empty report (empty group none)]
      · rw [List.filter_cons_of_pos (by simpa using none), List.map_cons, List.foldl_cons, ih]
        rfl

/-- The checks of a report that are kept are those of its groups that are to be kept. -/
theorem keeping_checks (keep : String → CheckResult → Bool) (report : CatalogReport) :
    (report.keeping keep).checks =
      report.groups.flatMap fun group => group.checks.filter (keep group.id) := by
  rw [keeping, checks, foldl_add]
  simp only [start, List.nil_append]
  induction report.groups with
  | nil => rfl
  | cons group groups ih =>
      rw [List.map_cons, List.flatMap_cons, List.filter_cons, ← ih]
      by_cases none : (group.keeping (keep group.id)).checks = []
      · rw [if_neg (by simpa using none), ← group.keeping_checks, none, List.nil_append]
      · rw [if_pos (by simpa using none), List.flatMap_cons, group.keeping_checks]

/-- If results are kept whatever their group is, the checks of a report are filtered as a whole. -/
theorem keeping_checks_of_all (keep : CheckResult → Bool) (report : CatalogReport) :
    (report.keeping fun _ => keep).checks = report.checks.filter keep := by
  rw [keeping_checks, checks, List.filter_flatMap]

/-- Keeping some results keeps their order. -/
theorem keeping_checks_sublist (keep : String → CheckResult → Bool) (report : CatalogReport) :
    (report.keeping keep).checks.Sublist report.checks := by
  rw [keeping_checks, checks]
  exact List.Sublist.flatMap_right _ fun _ _ => List.filter_sublist

end CatalogReport

namespace Filter

/-- The same groups and checks, of which the scored ones or the others may be asked for only. -/
def withScoring (filter : Filter) (onlyScored onlyUnscored : Bool) : Filter :=
  { filter with onlyScored, onlyUnscored }

/-- The filter keeps a result of a group. -/
def keeps (filter : Filter) (group : String) (result : CheckResult) : Bool :=
  lists filter.groups group && lists filter.checks result.id && filter.scoring result.scored

/-- With the same groups and checks, a filter for either kind of check can always be made. -/
theorem make?_withScoring (filter : Filter) (onlyScored onlyUnscored : Bool) :
    make? filter.groups filter.checks onlyScored onlyUnscored =
      .ok (filter.withScoring onlyScored onlyUnscored) := by
  rw [make?, dif_pos filter.exclusive]
  rfl

end Filter

namespace Audit

variable {wide narrow : Filter} {keep : String → CheckResult → Bool} {skipped : List String}
  {probe : Probe}

/-- The narrow filter accepts those of the checks that the wide one accepts whose results `keep`
keeps. -/
def Narrows (skipped : List String) (probe : Probe) (wide narrow : Filter)
    (keep : String → CheckResult → Bool) : Prop :=
  ∀ group check, narrow.accepts group check =
    (keep group.id (Audit.result probe ((Audit.mk wide skipped).prepare group check)) &&
      wide.accepts group check)

/-- A narrower filter gives the results of a group that are to be kept. -/
theorem Narrows.runGroup (narrows : Narrows skipped probe wide narrow keep) (group : Group) :
    (Audit.mk narrow skipped).runGroup probe group =
      ((Audit.mk wide skipped).runGroup probe group).keeping (keep group.id) := by
  have id : ((Audit.mk wide skipped).runGroup probe group).id = group.id :=
    (runGroup_presents _ probe group).id
  have text : ((Audit.mk wide skipped).runGroup probe group).text = group.text :=
    (runGroup_presents _ probe group).text
  have checks : ((Audit.mk narrow skipped).selected group).map (Audit.result probe) =
      ((Audit.mk wide skipped).runGroup probe group).checks.filter (keep group.id) := by
    rw [Audit.runGroup, GroupResult.foldl_add]
    simp only [GroupResult.start, List.nil_append, selected, List.map_map, List.filter_map,
      List.filter_filter]
    exact congrArg _ (List.filter_congr fun check _ => narrows group check)
  rw [GroupResult.keeping, id, text, ← checks]
  rfl

/-- A narrower filter gives the report on a catalog with the results that are to be kept. -/
theorem Narrows.runCatalog (narrows : Narrows skipped probe wide narrow keep) (catalog : Catalog) :
    (Audit.mk narrow skipped).runCatalog probe catalog =
      ((Audit.mk wide skipped).runCatalog probe catalog).keeping keep := by
  have empty (group : GroupResult) (none : group.checks = []) :
      (group.keeping (keep group.id)).checks = [] := by
    rw [GroupResult.keeping_checks, none]
    rfl
  have kept : catalog.groups.map ((Audit.mk narrow skipped).runGroup probe) =
      (catalog.groups.map ((Audit.mk wide skipped).runGroup probe)).map
        fun group => group.keeping (keep group.id) := by
    rw [List.map_map]
    refine List.map_congr_left fun group _ => ?_
    rw [Function.comp_apply, narrows.runGroup, (runGroup_presents _ probe group).id]
  have groups : ((Audit.mk wide skipped).runCatalog probe catalog).groups =
      (catalog.groups.map ((Audit.mk wide skipped).runGroup probe)).filter (·.checks ≠ []) := by
    rw [Audit.runCatalog, CatalogReport.foldl_add]
    rfl
  have shown := runCatalog_presents (Audit.mk wide skipped) probe catalog
  rw [CatalogReport.keeping, groups, shown.id, shown.version, shown.text, shown.target,
    CatalogReport.foldl_add_nonempty empty, ← kept]
  rfl

/-- A narrower filter gives the reports of a run with the results that are to be kept. -/
theorem Narrows.run (narrows : Narrows skipped probe wide narrow keep) (catalogs : List Catalog) :
    ((Audit.mk narrow skipped).run probe catalogs).reports =
      ((Audit.mk wide skipped).run probe catalogs).reports.map (.keeping keep) := by
  obtain ⟨ordered, -, sorted⟩ := Catalog.exists_order catalogs
  rw [run_reports, run_reports, sorted _ (runCatalog_id _ probe), sorted _ (runCatalog_id _ probe),
    List.map_map]
  exact List.map_congr_left fun catalog _ => narrows.runCatalog catalog

/-- Any filter is narrower than the one that accepts everything. -/
theorem narrows_everything (skipped : List String) (probe : Probe) (filter : Filter) :
    Narrows skipped probe .everything filter filter.keeps := by
  intro group check
  have told := (Audit.mk .everything skipped).tells_result probe group check
  have all : Filter.everything.accepts group check = true := by
    simp [Filter.accepts_iff, Filter.Selects, Filter.everything]
  rw [all, Bool.and_true, Filter.keeps, told.id, told.scored, Filter.accepts]

/-- Asking for the scored checks only, or for the others only, keeps the results of these. -/
theorem narrows_withScoring (skipped : List String) (probe : Probe) (filter : Filter)
    (asked : Bool) :
    Narrows skipped probe (filter.withScoring false false) (filter.withScoring asked !asked)
      (fun _ result => result.scored == asked) := by
  intro group check
  have told := (Audit.mk (filter.withScoring false false) skipped).tells_result probe group check
  change _ = ((Audit.result probe _).scored == asked && _)
  rw [told.scored, Bool.and_comm]
  cases asked <;> simp [Filter.accepts, Filter.withScoring, Filter.scoring]

end Audit

namespace AuditResults

/-- The checks of a run are filtered if its reports are. -/
theorem checks_of_keeping {full kept : AuditResults} {keep : CheckResult → Bool}
    (reports : kept.reports = full.reports.map (.keeping fun _ => keep)) :
    kept.checks = full.checks.filter keep := by
  rw [checks, checks, reports, List.flatMap_map, List.filter_flatMap]
  simp only [CatalogReport.keeping_checks_of_all]

/-- The checks of a narrower run come in the same order. -/
theorem checks_sublist_of_keeping {full kept : AuditResults} {keep : String → CheckResult → Bool}
    (reports : kept.reports = full.reports.map (.keeping keep)) :
    kept.checks.Sublist full.checks := by
  rw [checks, checks, reports, List.flatMap_map]
  exact List.Sublist.flatMap_right _ fun report _ => report.keeping_checks_sublist keep

/-- Results are divided in two by whether their checks are scored. The order tells of each check in
turn whether it is. -/
structure Divided (order : List Bool) (full scored unscored : AuditResults) : Prop where
  ofScored : scored.reports = full.reports.map (.keeping fun _ result => result.scored)
  ofUnscored : unscored.reports = full.reports.map (.keeping fun _ result => !result.scored)
  disjoint : scored.checks.Disjoint unscored.checks
  merged : full.checks = woven order scored.checks unscored.checks
  totals : ∀ state, full.totals.count state =
    scored.totals.count state + unscored.totals.count state

/-- Runs for scored checks and for the others divide a run, and their totals add up. -/
theorem Tallied.divided {full scored unscored : AuditResults} (tallied : full.Tallied)
    (left : scored.Tallied) (right : unscored.Tallied)
    (ofScored : scored.reports = full.reports.map (.keeping fun _ result => result.scored))
    (ofUnscored : unscored.reports = full.reports.map (.keeping fun _ result => !result.scored)) :
    Divided (full.checks.map CheckResult.scored) full scored unscored := by
  have first := checks_of_keeping ofScored
  have second := checks_of_keeping ofUnscored
  refine ⟨ofScored, ofUnscored, ?disjoint, ?merged, ?totals⟩
  case disjoint =>
    intro result inside outside
    rw [first, List.mem_filter] at inside
    rw [second, List.mem_filter, inside.2] at outside
    exact Bool.false_ne_true outside.2
  case merged =>
    rw [first, second, woven_filter]
  case totals =>
    intro state
    rw [tallied.counters.each, left.counters.each, right.counters.each, first, second,
      List.countP_eq_countP_filter_add _ _ CheckResult.scored]

end AuditResults

namespace Filter

/-- For each selected check of a catalog in turn, whether it is scored. -/
def scoredOrder (filter : Filter) (catalog : Catalog) : List Bool :=
  catalog.groups.flatMap fun group => (filter.selectedChecks group).map Check.scored

end Filter

namespace Audit

/-- A report says of its checks in order whether they are scored, as the catalog does. -/
theorem runCatalog_scored (audit : Audit) (probe : Probe) (catalog : Catalog) :
    (audit.runCatalog probe catalog).checks.map CheckResult.scored =
      audit.filter.scoredOrder catalog := by
  simp only [runCatalog_checks, List.map_flatMap, List.map_map, Filter.scoredOrder]
  refine congrArg (catalog.groups.flatMap ·) (funext fun group => ?_)
  exact List.map_congr_left fun check _ => (audit.tells_result probe group check).scored

/-- A filter that asks for neither gives the results of one that asks for the scored checks only and
of one that asks for the others only, put together in the order of the catalogs. Any filter gives
some of the results that there are without a filter, as they are there, and in the same order. -/
theorem filters_divide_run (filter : Filter) (skipped : List String) (probe : Probe)
    (catalogs : List Catalog) :
    let run (filter : Filter) := (Audit.mk filter skipped).run probe catalogs
    let both := filter.withScoring false false
    (∀ onlyScored onlyUnscored,
      Filter.make? filter.groups filter.checks onlyScored onlyUnscored =
        .ok (filter.withScoring onlyScored onlyUnscored)) ∧
    (∃ ordered : List Catalog, ordered.Perm catalogs ∧
      AuditResults.Divided (ordered.flatMap both.scoredOrder) (run both)
        (run (filter.withScoring true false)) (run (filter.withScoring false true))) ∧
    (run filter).reports = (run .everything).reports.map (.keeping filter.keeps) ∧
    (run filter).checks.Sublist (run .everything).checks ∧
    ∀ state, (run filter).totals.count state ≤ (run .everything).totals.count state := by
  intro run both
  have tallied (filter : Filter) : (run filter).Tallied := (run_built _ probe catalogs).tallied
  have kept : (run filter).reports = (run .everything).reports.map (.keeping filter.keeps) :=
    (narrows_everything skipped probe filter).run catalogs
  have sublist := AuditResults.checks_sublist_of_keeping kept
  refine ⟨filter.make?_withScoring, ?divided, kept, sublist, ?totals⟩
  case divided =>
    obtain ⟨ordered, permuted, sorted⟩ := Catalog.exists_order catalogs
    refine ⟨ordered, permuted, ?_⟩
    have order : (run both).checks.map CheckResult.scored = ordered.flatMap both.scoredOrder := by
      rw [AuditResults.checks, run_reports, sorted _ (runCatalog_id _ probe), List.flatMap_map,
        List.map_flatMap]
      simp only [runCatalog_scored]
    rw [← order]
    refine AuditResults.Tallied.divided (tallied both) (tallied _) (tallied _) ?scored ?unscored
    case scored => simpa using (narrows_withScoring skipped probe filter true).run catalogs
    case unscored => simpa using (narrows_withScoring skipped probe filter false).run catalogs
  case totals =>
    intro state
    rw [(tallied filter).counters.each, (tallied .everything).counters.each]
    exact sublist.countP_le

end Audit

end HostAudit
