import HostAudit.Definition.Writer
import HostAudit.Report

/-
This file writes the results of an audit as values.
-/

namespace HostAudit.Report

open Definition
open Json (Value)

/-- The sources of a result, which are left out when there are none. -/
def sources (used : List Source) : List (String × Value) :=
  if used.isEmpty then [] else [("sources_used", .array (used.map ofSource))]

def ofCheckResult (result : CheckResult) : Value :=
  .object ([("test_number", .text result.id), ("test_desc", .text result.text),
      ("audit", .text result.audit)] ++
    unlessEmpty "audit_config" result.auditConfig ++
    unlessEmpty "audit_env" result.auditEnvironment ++ whenPresent "type" ofMark result.mark ++
    [("remediation", .text result.remediation), ("scored", .bool result.scored),
      ("status", ofState result.state), ("actual_value", .text result.actual),
      ("expected_result", .text result.expected), ("reason", .text result.reason)] ++
    sources result.sources)

def ofGroupResult (group : GroupResult) : Value :=
  .object ([("section", .text group.id), ("desc", .text group.text)] ++
    counters "" group.summary ++ [("results", .array (group.checks.map ofCheckResult))])

def ofCatalogReport (report : CatalogReport) : Value :=
  .object ([("id", .text report.id), ("version", .text report.version),
      ("text", .text report.text), ("node_type", .text report.target),
      ("tests", .array (report.groups.map ofGroupResult))] ++
    counters "total_" report.summary)

def controls (results : AuditResults) : Value := .array (results.reports.map ofCatalogReport)

def ofResults (results : AuditResults) : Value :=
  .object [("controls", controls results), ("totals", ofSummary results.totals)]

end HostAudit.Report
