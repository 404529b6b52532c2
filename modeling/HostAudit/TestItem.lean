import HostAudit.Comparison
import HostAudit.Lookup

/-
This file holds test items, each of which states one condition on the output of a probe.
-/

namespace HostAudit

/-- The probes of a check, whose outputs an item may be tested on. -/
inductive Source where
  | primary
  | config
  | environment
deriving DecidableEq, Repr

namespace Source

def name : Source → String
  | primary => "primary"
  | config => "config"
  | environment => "env"

def all : List Source := [primary, config, environment]

def ofName? (name : String) : Option Source := all.find? (·.name = name)

end Source

/-- What is asked of a value that is found. -/
structure Requirement where
  operator : Operator
  value : String
deriving DecidableEq, Repr

/-- An item looks for its flag, or for a path in a document, or for an environment variable. It asks
that the locator is present, and perhaps more of its value, or that it is absent. -/
structure TestItem where
  flag : String
  path : String
  environment : String
  present : Bool
  requirement : Option Requirement
deriving DecidableEq, Repr

/-- What testing gives: whether the condition holds, whether the locator was found, the output that
was tested, and the condition in words. -/
structure TestOutcome where
  matched : Bool
  found : Bool
  actual : String
  expected : String
deriving DecidableEq, Repr

def TestOutcome.empty : TestOutcome := ⟨false, false, "", ""⟩

namespace TestItem

/-- An item that asks for a flag, or for its absence. -/
def ofFlag (flag : String) (present : Bool) : TestItem := ⟨flag, "", "", present, none⟩

/-- The locator for a source. It may be empty. -/
def locator (item : TestItem) : Source → String
  | .primary => item.flag
  | .config => if item.path.isEmpty then item.flag else item.path
  | .environment => item.environment

/-- How the locator for a source is looked for. -/
def lookup (item : TestItem) : Source → Lookup
  | .primary => .flag
  | .config => if item.path.isEmpty then .flag else .path .either
  | .environment => .environment

/-- The condition in words, and whether it holds, once the locator has been looked for. -/
def judge (item : TestItem) (locator : String) (found : Option String) : String × Bool :=
  if item.present then
    match item.requirement, found with
    | some requirement, some value =>
        let comparison := requirement.operator.compare value requirement.value locator
        (comparison.explanation, comparison.result)
    | _, _ => ("'" ++ locator ++ "' is present", found.isSome)
  else ("'" ++ locator ++ "' is not present", found.isNone)

/-- This tests an item on one line. -/
def evaluateLine (item : TestItem) (source : Source) (line : String) :
    Except Lookup.Fault TestOutcome := do
  let locator := item.locator source
  let found ← (item.lookup source).find line locator
  let (expected, matched) := item.judge locator found
  pure ⟨matched, found.isSome, "", expected⟩

/-- This tests an item on lines up to the first that does not match, whose outcome counts. -/
def evaluateLines (item : TestItem) (source : Source) :
    TestOutcome → List String → Except Lookup.Fault TestOutcome
  | outcome, [] => pure outcome
  | _, line :: rest => do
      let outcome ← item.evaluateLine source line
      if outcome.matched then evaluateLines item source outcome rest else pure outcome

/-- An output without the spaces and line breaks at its end. -/
def trimmedOutput (output : String) : String :=
  String.ofList (Text.dropTrailing (fun c => c == ' ' || c == '\n') output.toList)

/-- The trimmed output is the only beginning of an output that does not end in a space or a line
break and has nothing else behind it. -/
theorem trimmedOutput_eq_iff {output kept : String} :
    trimmedOutput output = kept ↔
      ∃ blanks : String, output = kept ++ blanks ∧
        (∀ c ∈ blanks.toList, c = ' ' ∨ c = '\n') ∧
        ∀ c ∈ kept.toList.getLast?, c ≠ ' ' ∧ c ≠ '\n' := by
  rw [trimmedOutput, ← String.toList_inj, String.toList_ofList, Text.dropTrailing_eq_iff]
  simp only [Bool.or_eq_true, Bool.or_eq_false_iff, beq_iff_eq, beq_eq_false_iff_ne]
  constructor
  · rintro ⟨tail, split, blank, solid⟩
    refine ⟨String.ofList tail, ?_, by rwa [String.toList_ofList], solid⟩
    rw [← String.toList_inj, String.toList_append, String.toList_ofList, split]
  · rintro ⟨blanks, rfl, blank, solid⟩
    exact ⟨blanks.toList, String.toList_append, blank, solid⟩

/-- The texts that an item is tested on: the lines of the output, or all of it at once. -/
def tested (multiple : Bool) (output : String) : List String :=
  if multiple then Text.pieces '\n' output else [output]

/-- This tests an item on an output. -/
def evaluate (item : TestItem) (source : Source) (multiple : Bool) (output : String) :
    Except Lookup.Fault TestOutcome := do
  let output := trimmedOutput output
  let outcome ← item.evaluateLines source .empty (tested multiple output)
  pure (if item.present then { outcome with actual := output } else outcome)

end TestItem

end HostAudit
