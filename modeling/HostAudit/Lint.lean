import HostAudit.Catalog

/-
This file looks for definitions that cannot be tested on any host.
-/

namespace HostAudit

/-- What is wrong with the tests of a check. -/
inductive Problem where
  | unknownCombinator (name : String)
  | noLocator
  | malformedPath (malformed : Path.Malformed)
  | unknownOperator (name : String)
  | malformedPattern
deriving DecidableEq, Repr

/-- A problem in words. What is wrong with a pattern is not told. -/
def Problem.message : Problem → String
  | unknownCombinator name => "unknown binary operator '" ++ name ++ "'"
  | noLocator => "test item without flag, path or env"
  | malformedPath malformed => malformed.message
  | unknownOperator name => "unknown compare operator '" ++ name ++ "'"
  | malformedPattern => "invalid regex:"

namespace Lint

def ofCombinator : Combinator → List Problem
  | .unrecognized name => [.unknownCombinator name]
  | _ => []

/-- An item needs a locator of some kind. -/
def ofLocators (item : TestItem) : List Problem :=
  if item.flag.isEmpty && item.path.isEmpty && item.environment.isEmpty then [.noLocator] else []

def ofPath (path : String) : List Problem :=
  if path.isEmpty then []
  else match Path.Template.read? path with
    | .error malformed => [.malformedPath malformed]
    | .ok _ => []

def ofRequirement (requirement : Requirement) : List Problem :=
  match requirement.operator with
  | .unrecognized name => [.unknownOperator name]
  | .pattern => if (Pattern.ofText? requirement.value).isNone then [.malformedPattern] else []
  | _ => []

def ofItem (item : TestItem) : List Problem :=
  ofLocators item ++ ofPath item.path ++ item.requirement.toList.flatMap ofRequirement

def ofTests (tests : TestSet) : List Problem :=
  ofCombinator tests.combinator ++ tests.items.flatMap ofItem

def ofCheck (check : Check) : List Problem := check.tests.toList.flatMap ofTests

/-- The problems of a catalog, each with the id of its check. -/
def ofCatalog (catalog : Catalog) : List (String × Problem) :=
  catalog.checks.flatMap fun check => (ofCheck check).map fun problem => (check.id, problem)

/-- A problem with the id of its check. -/
def line (problem : String × Problem) : String := problem.1 ++ ": " ++ problem.2.message

end Lint

end HostAudit
