import HostAudit.Catalog
import HostAudit.Json.Value
import HostAudit.Report

/-
This file writes definitions as values. A field that says nothing is left out, where its absence
says the same.
-/

namespace HostAudit.Definition

open Json (Value)

/-- A member for a text that is left out when it is empty. -/
def unlessEmpty (name text : String) : List (String × Value) :=
  if text.isEmpty then [] else [(name, .text text)]

/-- A member for what may be missing. -/
def whenPresent {A : Type} (name : String) (write : A → Value) (value : Option A) :
    List (String × Value) :=
  (value.map fun value => (name, write value)).toList

def ofOperator (operator : Operator) : Value := .text operator.name

def ofRequirement (requirement : Requirement) : Value :=
  .object [("op", ofOperator requirement.operator), ("value", .text requirement.value)]

def ofTestItem (item : TestItem) : Value :=
  .object ([("flag", .text item.flag)] ++ unlessEmpty "path" item.path ++
    unlessEmpty "env" item.environment ++ [("set", .bool item.present)] ++
    whenPresent "compare" ofRequirement item.requirement)

def ofCombinator (combinator : Combinator) : Value := .text combinator.name

def ofTestSet (set : TestSet) : Value :=
  .object [("test_items", .array (set.items.map ofTestItem)),
    ("bin_op", ofCombinator set.combinator)]

def ofMark (mark : Mark) : Value := .text mark.name

def ofState (state : State) : Value := .text state.name

def ofSource (source : Source) : Value := .text source.name

def ofCheck (check : Check) : Value :=
  .object ([("id", .text check.id), ("text", .text check.text), ("audit", .text check.audit)] ++
    unlessEmpty "audit_config" check.auditConfig ++
    unlessEmpty "audit_env" check.auditEnvironment ++
    whenPresent "type" ofMark check.mark ++ whenPresent "tests" ofTestSet check.tests ++
    [("remediation", .text check.remediation), ("scored", .bool check.scored),
      ("use_multiple_values", .bool check.multipleValues),
      ("disable_env_testing", .bool check.noEnvironmentProbe)])

def ofGroup (group : Group) : Value :=
  .object [("id", .text group.id), ("text", .text group.text), ("type", .text group.kind),
    ("checks", .array (group.checks.map ofCheck))]

def ofCatalog (catalog : Catalog) : Value :=
  .object [("id", .text catalog.id), ("version", .text catalog.version),
    ("text", .text catalog.text), ("type", .text catalog.target),
    ("groups", .array (catalog.groups.map ofGroup))]

/-- The counters of a summary under names with a common start. -/
def counters (start : String) (summary : Summary) : List (String × Value) :=
  [(start ++ "pass", .nat summary.pass), (start ++ "fail", .nat summary.fail),
    (start ++ "warn", .nat summary.warn), (start ++ "info", .nat summary.info)]

def ofSummary (summary : Summary) : Value := .object (counters "total_" summary)

end HostAudit.Definition
