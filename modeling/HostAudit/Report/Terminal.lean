import HostAudit.Report

/-
This file writes the results of an audit for a terminal: a line for every check, what to do about
those that did not pass, and summaries.
-/

namespace HostAudit.Report

/-- What a report leaves out or shows in addition. -/
structure Options where
  includeOutput : Bool
  noRemediations : Bool
  noSummary : Bool
  noTotals : Bool
deriving DecidableEq, Repr

inductive Color where
  | green
  | red
  | yellow
  | blue
deriving DecidableEq, Repr

namespace Color

def code : Color → String
  | green => "32"
  | red => "31"
  | yellow => "33"
  | blue => "34"

def ofState : State → Color
  | .pass => green
  | .fail => red
  | .warn => yellow
  | .info => blue

end Color

/-- The sequence that ends all styles. -/
def reset : List Char := ['\x1b', '[', '0', 'm']

/-- This takes up a style again after every reset within a text. -/
def restyled (style : List Char) : List Char → List Char
  | '\x1b' :: '[' :: '0' :: 'm' :: rest => reset ++ style ++ restyled style rest
  | c :: rest => c :: restyled style rest
  | [] => []

/-- A text in the style of a code. -/
def styled (code text : String) : String :=
  let style := '\x1b' :: '[' :: code.toList ++ ['m']
  String.ofList (style ++ restyled style text.toList ++ reset)

/-- A text in a color, where colors are on. -/
def painted (colored : Bool) (color : Color) (text : String) : String :=
  if colored then styled color.code text else text

/-- A line that begins with the name of a state. -/
def stateLine (colored : Bool) (state : State) (text : String) : String :=
  painted colored (.ofState state) ("[" ++ state.name ++ "]") ++ " " ++ text ++ "\n"

/-- The rows of the output that a check failed on. -/
def outputRows (options : Options) (check : CheckResult) : String :=
  if options.includeOutput && check.state == .fail && !check.actual.isEmpty then
    Text.joined "" ((Text.pieces '\n' check.actual).map fun row => "\t " ++ row ++ "\n")
  else ""

def checkLines (options : Options) (colored : Bool) (check : CheckResult) : String :=
  stateLine colored check.state (check.id ++ " " ++ check.text) ++ outputRows options check

def groupLines (options : Options) (colored : Bool) (group : GroupResult) : String :=
  stateLine colored .info (group.id ++ " " ++ group.text) ++
    Text.joined "" (group.checks.map (checkLines options colored))

def catalogLines (options : Options) (colored : Bool) (report : CatalogReport) : String :=
  stateLine colored .info (report.id ++ " " ++ report.text) ++
    Text.joined "" (report.groups.map (groupLines options colored)) ++ "\n"

/-- What to do about a check that did not pass. One that could not be tested gives the reason. -/
def remedy? (check : CheckResult) : Option String :=
  match check.state with
  | .fail => some (check.id ++ " " ++ check.remediation ++ "\n")
  | .warn =>
      if !check.reason.isEmpty && !check.isManual then
        some (check.id ++ " audit test did not run: " ++ check.reason ++ "\n")
      else some (check.id ++ " " ++ check.remediation ++ "\n")
  | _ => none

/-- The remedies of a report that has failures or warnings. -/
def remediations (colored : Bool) (report : CatalogReport) : String :=
  if report.summary.fail = 0 ∧ report.summary.warn = 0 then ""
  else
    painted colored .yellow ("== Remediations " ++ report.target ++ " ==") ++ "\n" ++
      Text.joined "" (report.checks.filterMap remedy?) ++ "\n"

/-- The color of a summary is that of the most severe state in it. -/
def summaryColor (summary : Summary) : Color :=
  if 0 < summary.fail then .red else if 0 < summary.warn then .yellow else .green

def countLine (count : Nat) (state : State) : String :=
  Integer.naturalText count ++ " checks " ++ state.name ++ "\n"

def summaryBlock (colored : Bool) (summary : Summary) (section_ : String) : String :=
  painted colored (summaryColor summary) ("== Summary " ++ section_ ++ " ==") ++ "\n" ++
    Text.joined "" (State.all.map fun state => countLine (summary.count state) state) ++ "\n"

def catalogBlock (options : Options) (colored : Bool) (report : CatalogReport) : String :=
  catalogLines options colored report ++
    (if options.noRemediations then "" else remediations colored report) ++
    (if options.noSummary then "" else summaryBlock colored report.summary report.target)

/-- The whole report. -/
def terminal (options : Options) (colored : Bool) (results : AuditResults) : String :=
  Text.joined "" (results.reports.map (catalogBlock options colored)) ++
    (if options.noTotals then "" else summaryBlock colored results.totals "total")

end HostAudit.Report
