import HostAudit.TestItem

/-
This file holds test sets, which combine the outcomes of test items.
-/

namespace HostAudit

/-- How outcomes are combined. A combinator that is not known by its name combines nothing. -/
inductive Combinator where
  | all
  | any
  | unrecognized (name : String)
deriving DecidableEq, Repr

/-- Why a test set has no outcome. -/
inductive EvaluationError where
  | unknownCombinator (name : String)
  | lookup (fault : Lookup.Fault)
deriving DecidableEq, Repr

def EvaluationError.message : EvaluationError → String
  | unknownCombinator name => "unknown binary operator for tests " ++ name
  | lookup fault => fault.message

namespace Combinator

/-- The combinator of a name, around which blanks do not count. No name means that all must
match. -/
def ofName (name : String) : Combinator :=
  match Text.trimmed name with
  | "" => all
  | "and" => all
  | "or" => any
  | other => unrecognized other

def name : Combinator → String
  | all => "and"
  | any => "or"
  | unrecognized name => name

/-- What stands between two conditions in words. -/
def joiner (combinator : Combinator) : Except EvaluationError String :=
  match combinator with
  | all => .ok " AND "
  | any => .ok " OR "
  | unrecognized name => .error (.unknownCombinator name)

/-- Whether the combination of outcomes matches. -/
def holds (combinator : Combinator) (outcomes : List TestOutcome) : Bool :=
  match combinator with
  | any => outcomes.any (·.matched)
  | _ => outcomes.all (·.matched)

/-- The outcome of a combination. The first outcome gives the output that was tested. -/
def combine (combinator : Combinator) (outcomes : List TestOutcome) :
    Except EvaluationError TestOutcome := do
  let joiner ← combinator.joiner
  let first := outcomes.headD .empty
  pure ⟨combinator.holds outcomes, first.found, first.actual,
    Text.joined joiner (outcomes.map (·.expected))⟩

end Combinator

structure TestSet where
  items : List TestItem
  combinator : Combinator
deriving DecidableEq, Repr

/-- This tests every item of a set on the same output. -/
def TestSet.evaluate (set : TestSet) (source : Source) (multiple : Bool) (output : String) :
    Except EvaluationError TestOutcome := do
  let outcomes := set.items.mapM fun (item : TestItem) => item.evaluate source multiple output
  set.combinator.combine (← outcomes.mapError .lookup)

end HostAudit
