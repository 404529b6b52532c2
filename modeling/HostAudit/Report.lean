import HostAudit.Catalog
import HostAudit.Number.Decimal

/-
This file holds the results of an audit, from single checks up to all catalogs, with counters of the
states at every level.
-/

namespace HostAudit

/-- How many checks ended in each state. -/
structure Summary where
  pass : Nat
  fail : Nat
  warn : Nat
  info : Nat
deriving DecidableEq, Repr

namespace Summary

def zero : Summary := ⟨0, 0, 0, 0⟩

/-- This counts one more check. -/
def record (summary : Summary) : State → Summary
  | .pass => { summary with pass := summary.pass + 1 }
  | .fail => { summary with fail := summary.fail + 1 }
  | .warn => { summary with warn := summary.warn + 1 }
  | .info => { summary with info := summary.info + 1 }

def merge (first second : Summary) : Summary :=
  ⟨first.pass + second.pass, first.fail + second.fail, first.warn + second.warn,
    first.info + second.info⟩

def count (summary : Summary) : State → Nat
  | .pass => summary.pass
  | .fail => summary.fail
  | .warn => summary.warn
  | .info => summary.info

def total (summary : Summary) : Nat := summary.pass + summary.fail + summary.warn + summary.info

@[simp] theorem count_zero (state : State) : zero.count state = 0 := by cases state <;> rfl

theorem count_record (summary : Summary) (recorded state : State) :
    (summary.record recorded).count state =
      summary.count state + if recorded = state then 1 else 0 := by
  cases recorded <;> cases state <;> rfl

theorem count_merge (first second : Summary) (state : State) :
    (first.merge second).count state = first.count state + second.count state := by
  cases state <;> rfl

end Summary

/-- A check as it was run, and what it came to. -/
structure CheckResult where
  id : String
  text : String
  audit : String
  auditConfig : String
  auditEnvironment : String
  mark : Option Mark
  remediation : String
  scored : Bool
  state : State
  actual : String
  expected : String
  reason : String
  sources : List Source
deriving DecidableEq, Repr

namespace CheckResult

def ofOutcome (check : Check) (outcome : CheckOutcome) : CheckResult where
  id := check.id
  text := check.text
  audit := check.audit
  auditConfig := check.auditConfig
  auditEnvironment := check.auditEnvironment
  mark := check.mark
  remediation := check.remediation
  scored := check.scored
  state := outcome.state
  actual := outcome.actual
  expected := outcome.expected
  reason := outcome.reason
  sources := outcome.sources

def isManual (result : CheckResult) : Bool := result.mark = some .manual

end CheckResult

structure GroupResult where
  id : String
  text : String
  summary : Summary
  checks : List CheckResult
deriving DecidableEq, Repr

namespace GroupResult

def start (id text : String) : GroupResult := ⟨id, text, .zero, []⟩

def add (group : GroupResult) (result : CheckResult) : GroupResult :=
  { group with
    summary := group.summary.record result.state
    checks := group.checks ++ [result] }

end GroupResult

/-- The results of one catalog. -/
structure CatalogReport where
  id : String
  version : String
  text : String
  target : String
  groups : List GroupResult
  summary : Summary
deriving DecidableEq, Repr

namespace CatalogReport

def start (id version text target : String) : CatalogReport :=
  ⟨id, version, text, target, [], .zero⟩

/-- This adds a group, unless it has no checks. -/
def add (report : CatalogReport) (group : GroupResult) : CatalogReport :=
  if group.checks.isEmpty then report
  else { report with
    groups := report.groups ++ [group]
    summary := report.summary.merge group.summary }

def checks (report : CatalogReport) : List CheckResult := report.groups.flatMap GroupResult.checks

/-- The place of a report among others: by the number that its id spells, other ids going last. -/
def place (report : CatalogReport) : Double :=
  (Decimal.readDouble? (Text.trim report.id.toList)).getD (.infinity false)

/-- Reports of one place are in the order of their ids. -/
def precedes (first second : CatalogReport) : Bool :=
  if first.place.orderKey = second.place.orderKey then first.id ≤ second.id
  else first.place.orderKey < second.place.orderKey

end CatalogReport

/-- The results of an audit, and the number of checks that were run for each catalog in turn. -/
structure AuditResults where
  reports : List CatalogReport
  totals : Summary
  runs : List (String × Nat)
deriving DecidableEq, Repr

namespace AuditResults

def empty : AuditResults := ⟨[], .zero, []⟩

def add (results : AuditResults) (report : CatalogReport) : AuditResults :=
  { results with
    reports := results.reports ++ [report]
    totals := results.totals.merge report.summary }

/-- This notes how many checks were run for a report. -/
def note (results : AuditResults) (report : CatalogReport) : AuditResults :=
  { results with runs := results.runs ++ [(report.id, report.summary.total)] }

/-- The results of reports that were made one after another. -/
def ofReports (reports : List CatalogReport) : AuditResults :=
  reports.foldl (fun (results : AuditResults) report => (results.note report).add report) empty

/-- This puts the reports in order. -/
def sort (results : AuditResults) : AuditResults :=
  { results with reports := results.reports.mergeSort CatalogReport.precedes }

def checks (results : AuditResults) : List CheckResult :=
  results.reports.flatMap CatalogReport.checks

def hasFailures (results : AuditResults) : Bool := 0 < results.totals.fail

def hasWarnings (results : AuditResults) : Bool := 0 < results.totals.warn

end AuditResults

end HostAudit
