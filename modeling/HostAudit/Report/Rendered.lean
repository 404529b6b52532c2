import HostAudit.Json.Writer
import HostAudit.Report.Terminal
import HostAudit.Report.Writer
import HostAudit.Time

/-
This file renders reports, for a terminal or as JSON documents.
-/

namespace HostAudit.Report

/-- The version that reports carry. -/
def version : String := "0.4.0"

/-- The value of a JSON report. Without totals it is a list of the catalogs. -/
def document (options : Options) (moment : String) (results : AuditResults) : Json.Value :=
  if options.noTotals then controls results
  else .object [("version", .text version), ("generated_at", .text moment),
    ("controls", controls results), ("totals", Definition.ofSummary results.totals)]

inductive Form where
  | terminal
  | json
deriving DecidableEq, Repr

/-- A report in a form. JSON has no colors, and the terminal no time. -/
def rendered (form : Form) (options : Options) (colored : Bool) (moment : String)
    (results : AuditResults) : String :=
  match form with
  | .terminal => terminal options colored results
  | .json => (document options moment results).pretty

end HostAudit.Report
