import HostAudit.Proofs.Protocol
import HostAudit.Proofs.RunContents

/-
This file tells what skipping does to a run: the checks that are skipped are reported so, and
nothing is run on their behalf. All other checks come to what they come to without it.
-/

namespace HostAudit

namespace Check

/-- The reason of a check that is skipped. -/
def skipReason : String := "Test marked as skip"

/-- The result of a check that is skipped. -/
def skippedResult (check : Check) : CheckResult where
  id := check.id
  text := check.text
  audit := check.audit
  auditConfig := check.auditConfig
  auditEnvironment := check.auditEnvironment
  mark := some .skip
  remediation := check.remediation
  scored := check.scored
  state := .info
  actual := ""
  expected := ""
  reason := skipReason
  sources := []

/-- A check that is marked to be skipped is decided so. -/
theorem decided?_of_skip {check : Check} (skip : check.mark = some .skip) :
    check.decided? = some (.ofReason .info skipReason) := by
  simp [decided?, skip, skipReason]

end Check

/-- The result of the same check if it is skipped. -/
def CheckResult.skipped (result : CheckResult) : CheckResult :=
  { result with
    mark := some .skip
    state := .info
    actual := ""
    expected := ""
    reason := Check.skipReason
    sources := [] }

/-- Ids name a group or a check if one of them, without the blanks around it, is its id. An id that
is blank names nothing. -/
def Named (ids : List String) (id : String) : Prop :=
  id ≠ "" ∧ ∃ given ∈ ids, Text.trimmed given = id

instance (ids : List String) (id : String) : Decidable (Named ids id) :=
  inferInstanceAs (Decidable (_ ∧ _))

/-- No ids name nothing. -/
theorem not_named_nil (id : String) : ¬ Named [] id := by
  simp [Named]

/-- A check is left out because of the kind of its group, or as one of its ids is given. -/
def LeftOut (ids : List String) (group : Group) (check : Check) : Prop :=
  Text.trimmed group.kind = "skip" ∨ Named ids group.id ∨ Named ids check.id

instance (ids : List String) (group : Group) (check : Check) :
    Decidable (LeftOut ids group check) := inferInstanceAs (Decidable (_ ∨ _))

/-- The second group result differs from the first in nothing but its counters, and the checks that
the ids name. These are skipped. -/
structure GroupResult.SkipsNamed (ids : List String) (full skipping : GroupResult) : Prop where
  id : skipping.id = full.id
  text : skipping.text = full.text
  checks : skipping.checks = full.checks.map fun result =>
    if Named ids full.id ∨ Named ids result.id then result.skipped else result

/-- The second report differs from the first in nothing but its counters, and the checks that the
ids name. -/
structure CatalogReport.SkipsNamed (ids : List String) (full skipping : CatalogReport) : Prop where
  id : skipping.id = full.id
  version : skipping.version = full.version
  text : skipping.text = full.text
  target : skipping.target = full.target
  groups : List.Forall₂ (GroupResult.SkipsNamed ids) full.groups skipping.groups

namespace Audit

variable {audit : Audit} {ids : List String} {group : Group} {check : Check}

/-- The commands that are run on behalf of a check. -/
def commands (audit : Audit) (probe : Probe) (group : Group) (check : Check) : List String :=
  (audit.prepare group check).commands probe

/-- The ids that are skipped are those given, without blanks around them. -/
theorem mem_skipped_skipping {id : String} :
    id ∈ (audit.skipping ids).skipped ↔ Named ids id := by
  simp only [skipping, List.mem_filter, List.mem_map, Bool.not_eq_true',
    String.isEmpty_eq_false_iff, Named]
  exact and_comm

/-- A check is skipped exactly if it is left out. -/
theorem skips_skipping :
    (audit.skipping ids).skips group check = true ↔ LeftOut ids group check := by
  simp only [skips, Bool.or_eq_true, List.contains_iff_mem, mem_skipped_skipping, Group.isSkipped,
    decide_eq_true_iff, LeftOut, or_assoc]

/-- Skipping sets the mark of what is left out, and of nothing else. -/
theorem prepare_skipping (audit : Audit) (ids : List String) (group : Group) (check : Check) :
    (audit.skipping ids).prepare group check =
      if LeftOut ids group check then { check with mark := some .skip } else check := by
  simp only [prepare, skips_skipping]

/-- What is left out is reported as skipped. -/
theorem result_of_leftOut (probe : Probe) (leftOut : LeftOut ids group check) :
    Audit.result probe ((audit.skipping ids).prepare group check) = check.skippedResult := by
  rw [prepare_skipping, if_pos leftOut, Audit.result,
    Check.run_of_decided (Check.decided?_of_skip rfl)]
  rfl

/-- Nothing is run on behalf of what is left out. -/
theorem commands_of_leftOut (probe : Probe) (leftOut : LeftOut ids group check) :
    (audit.skipping ids).commands probe group check = [] := by
  rw [commands, prepare_skipping, if_pos leftOut, Check.commands, Check.decided?_of_skip rfl]
  rfl

/-- Apart from what the ids name, a check is prepared as without them. -/
theorem prepare_of_not_named (unnamed : ¬ (Named ids group.id ∨ Named ids check.id)) :
    (audit.skipping ids).prepare group check = (audit.skipping []).prepare group check := by
  have same : LeftOut ids group check ↔ LeftOut [] group check := by
    simp [LeftOut, unnamed, not_named_nil]
  simp only [prepare_skipping, same]

/-- Skipping replaces the results of what is named by skipped ones. -/
theorem result_skipping (audit : Audit) (probe : Probe) (ids : List String) (group : Group)
    (check : Check) :
    Audit.result probe ((audit.skipping ids).prepare group check) =
      let full := Audit.result probe ((audit.skipping []).prepare group check)
      if Named ids group.id ∨ Named ids full.id then full.skipped else full := by
  have id : (Audit.result probe ((audit.skipping []).prepare group check)).id = check.id :=
    (tells_result _ probe group check).id
  simp only [id]
  split
  · rename_i named
    rw [result_of_leftOut probe (.inr named), prepare_eq]
    rfl
  · rename_i unnamed
    rw [prepare_of_not_named unnamed]

/-- In a group, the results of what is named are replaced. -/
theorem runGroup_skipsNamed (audit : Audit) (probe : Probe) (ids : List String) (group : Group) :
    ((audit.skipping []).runGroup probe group).SkipsNamed ids
      ((audit.skipping ids).runGroup probe group) := by
  have full := (audit.skipping []).runGroup_presents probe group
  have skipping := (audit.skipping ids).runGroup_presents probe group
  refine ⟨skipping.id.trans full.id.symm, skipping.text.trans full.text.symm, ?_⟩
  rw [runGroup_checks, runGroup_checks, List.map_map, full.id]
  refine List.map_congr_left fun check _ => ?_
  exact audit.result_skipping probe ids group check

/-- In a catalog, the results of what is named are replaced, and its own fields stay. -/
theorem runCatalog_skipsNamed (audit : Audit) (probe : Probe) (ids : List String)
    (catalog : Catalog) :
    ((audit.skipping []).runCatalog probe catalog).SkipsNamed ids
      ((audit.skipping ids).runCatalog probe catalog) := by
  have full := (audit.skipping []).runCatalog_presents probe catalog
  have skipping := (audit.skipping ids).runCatalog_presents probe catalog
  refine ⟨skipping.id.trans full.id.symm, skipping.version.trans full.version.symm,
    skipping.text.trans full.text.symm, skipping.target.trans full.target.symm, ?_⟩
  rw [runCatalog_groups, runCatalog_groups, List.forall₂_map_left_iff, List.forall₂_map_right_iff]
  refine List.forall₂_same.mpr fun group _ => ?_
  exact audit.runGroup_skipsNamed probe ids group

/-- A check that is left out is skipped, and nothing is run on its behalf. Any other comes to what
it comes to by itself. -/
def SkipsLeftOut (audit : Audit) (probe : Probe) (ids : List String) (group : Group) (check : Check)
    (result : CheckResult) : Prop :=
  if LeftOut ids group check then
    result = check.skippedResult ∧ (audit.skipping ids).commands probe group check = []
  else
    result = .ofOutcome check (check.run probe) ∧
      (audit.skipping ids).commands probe group check = check.commands probe

/-- Each result is that of a skipped check, or that of the check by itself. -/
theorem skipsLeftOut_result (audit : Audit) (probe : Probe) (ids : List String) (group : Group)
    (check : Check) :
    audit.SkipsLeftOut probe ids group check
      (Audit.result probe ((audit.skipping ids).prepare group check)) := by
  rw [SkipsLeftOut]
  split
  · rename_i leftOut
    exact ⟨result_of_leftOut probe leftOut, commands_of_leftOut probe leftOut⟩
  · rename_i kept
    rw [commands, prepare_skipping, if_neg kept]
    exact ⟨rfl, rfl⟩

/-- A run that is told ids to skip gives the results of a run that is told none, apart from the
checks that these ids name, which are skipped. Whatever their definitions say, checks that are left
out are reported as skipped, and nothing is run on their behalf, and all others come to what they
come to by themselves. Ids that are told replace those that were told before. -/
theorem skipping_affects_named_only (audit : Audit) (probe : Probe) (catalogs : List Catalog)
    (ids : List String) :
    let full := (audit.skipping []).run probe catalogs
    let skipping := (audit.skipping ids).run probe catalogs
    List.Forall₂ (CatalogReport.SkipsNamed ids) full.reports skipping.reports ∧
    skipping.runs = full.runs ∧
    (∃ ordered : List Catalog, ordered.Perm catalogs ∧
      List.Forall₂ (audit.filter.Presents (audit.SkipsLeftOut probe ids)) ordered
        skipping.reports) ∧
    ∀ earlier, ((audit.skipping earlier).skipping ids) = audit.skipping ids := by
  obtain ⟨ordered, permuted, sorted⟩ := Catalog.exists_order catalogs
  have reports (given : List String) : ((audit.skipping given).run probe catalogs).reports =
      ordered.map ((audit.skipping given).runCatalog probe) := by
    rw [run_reports, sorted _ ((audit.skipping given).runCatalog_id probe)]
  refine ⟨?named, ?counted, ⟨ordered, permuted, ?leftOut⟩, fun earlier => rfl⟩
  case named =>
    rw [reports, reports, List.forall₂_map_left_iff, List.forall₂_map_right_iff]
    exact List.forall₂_same.mpr fun catalog _ => audit.runCatalog_skipsNamed probe ids catalog
  case counted =>
    rw [run_runs, run_runs]
    rfl
  case leftOut =>
    rw [reports, List.forall₂_map_right_iff]
    refine List.forall₂_same.mpr fun catalog _ => ?_
    refine ((audit.skipping ids).runCatalog_presents probe catalog).mono ?_
    rintro group check result rfl
    exact audit.skipsLeftOut_result probe ids group check

end Audit

end HostAudit
