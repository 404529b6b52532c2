import HostAudit.Report

/-
This file runs the checks of catalogs: those that a filter selects, some of them to be skipped.
-/

namespace HostAudit

/-- Which checks to run: those of some groups, or some checks, and perhaps only the scored ones or
only the others. Asking for both asks for all. -/
structure Filter where
  groups : List String
  checks : List String
  onlyScored : Bool
  onlyUnscored : Bool
  exclusive : groups = [] ∨ checks = []
deriving DecidableEq, Repr

namespace Filter

/-- This filter selects all checks. -/
def everything : Filter := ⟨[], [], false, false, .inl rfl⟩

/-- Groups and checks cannot be asked for together. -/
def conflict : String := "group option and check option can't be used together"

def make? (groups checks : List String) (onlyScored onlyUnscored : Bool) : Except String Filter :=
  if exclusive : groups = [] ∨ checks = [] then
    .ok ⟨groups, checks, onlyScored, onlyUnscored, exclusive⟩
  else .error conflict

/-- A list that names nothing names everything. -/
def lists (names : List String) (id : String) : Bool := names.isEmpty || names.contains id

def scoring (filter : Filter) (scored : Bool) : Bool :=
  match filter.onlyScored, filter.onlyUnscored with
  | true, false => scored
  | false, true => !scored
  | _, _ => true

def accepts (filter : Filter) (group : Group) (check : Check) : Bool :=
  lists filter.groups group.id && lists filter.checks check.id && filter.scoring check.scored

end Filter

/-- What to run: the checks of a filter, of which those with the given ids are skipped. -/
structure Audit where
  filter : Filter
  skipped : List String
deriving DecidableEq, Repr

namespace Audit

def everything : Audit := ⟨.everything, []⟩

/-- This replaces the ids to be skipped. Blank ids do not count, nor do blanks around an id. -/
def skipping (audit : Audit) (ids : List String) : Audit :=
  { audit with skipped := (ids.map Text.trimmed).filter (!·.isEmpty) }

/-- The check is skipped by itself or with its group. -/
def skips (audit : Audit) (group : Group) (check : Check) : Bool :=
  group.isSkipped || audit.skipped.contains group.id || audit.skipped.contains check.id

/-- The check as it is run. -/
def prepare (audit : Audit) (group : Group) (check : Check) : Check :=
  if audit.skips group check then { check with mark := some .skip } else check

/-- The checks of a group that are run. -/
def selected (audit : Audit) (group : Group) : List Check :=
  (group.checks.filter (audit.filter.accepts group)).map (audit.prepare group)

def result (probe : Probe) (check : Check) : CheckResult := .ofOutcome check (check.run probe)

def runGroup (audit : Audit) (probe : Probe) (group : Group) : GroupResult :=
  ((audit.selected group).map (result probe)).foldl .add (.start group.id group.text)

def runCatalog (audit : Audit) (probe : Probe) (catalog : Catalog) : CatalogReport :=
  (catalog.groups.map (audit.runGroup probe)).foldl .add
    (.start catalog.id catalog.version catalog.text catalog.target)

/-- The results of all catalogs, in the order of their reports. -/
def run (audit : Audit) (probe : Probe) (catalogs : List Catalog) : AuditResults :=
  (AuditResults.ofReports (catalogs.map (audit.runCatalog probe))).sort

end Audit

end HostAudit
