import HostAudit.Probe
import HostAudit.TestSet

/-
This file holds checks: their probes, their tests, and how they come to a state.
-/

namespace HostAudit

/-- The state that a check ends in. -/
inductive State where
  | pass
  | fail
  | warn
  | info
deriving DecidableEq, Repr

namespace State

def name : State → String
  | pass => "PASS"
  | fail => "FAIL"
  | warn => "WARN"
  | info => "INFO"

def all : List State := [pass, fail, warn, info]

def ofName? (name : String) : Option State := all.find? (·.name = name)

/-- What does not pass is a failure of a scored check, and a warning of another. -/
def failing (scored : Bool) : State := if scored then fail else warn

end State

/-- A check may be marked: as one to be skipped, or to be made by hand. -/
inductive Mark where
  | normal
  | skip
  | manual
deriving DecidableEq, Repr

namespace Mark

def name : Mark → String
  | normal => "normal"
  | skip => "skip"
  | manual => "manual"

def all : List Mark := [normal, skip, manual]

def ofName? (name : String) : Option Mark := all.find? (·.name = name)

end Mark

/-- A rule: its commands, its tests, and what to do when it does not pass. -/
structure Check where
  id : String
  text : String
  audit : String
  auditConfig : String
  auditEnvironment : String
  mark : Option Mark
  tests : Option TestSet
  remediation : String
  scored : Bool
  multipleValues : Bool
  noEnvironmentProbe : Bool
deriving DecidableEq, Repr

/-- The outputs of the probes of a check; some probes may be missing. -/
structure Outputs where
  audit : String
  config : Option String
  environment : Option String
deriving DecidableEq, Repr

/-- What a check comes to, and the source that each test item was decided on. -/
structure CheckOutcome where
  state : State
  reason : String
  actual : String
  expected : String
  sources : List Source
deriving DecidableEq, Repr

/-- An outcome that no test gave. -/
def CheckOutcome.ofReason (state : State) (reason : String) : CheckOutcome :=
  ⟨state, reason, "", "", []⟩

/-- The output of a source that applies to an item. An item that names no environment variable is
not tested on the environment. -/
def Outputs.of? (outputs : Outputs) (item : TestItem) : Source → Option String
  | .primary => some outputs.audit
  | .config => outputs.config
  | .environment => if item.environment.isEmpty then none else outputs.environment

namespace Check

def empty : Check := ⟨"", "", "", "", "", none, none, "", false, false, false⟩

def isManual (check : Check) : Bool := check.mark = some .manual

def items (check : Check) : List TestItem := (check.tests.map TestSet.items).getD []

/-- The check asks a probe for an environment. -/
def hasEnvironmentProbe (check : Check) : Bool := !Text.isBlankText check.auditEnvironment

/-- Some test item names an environment variable. -/
def usesEnvironment (check : Check) : Bool := check.items.any (!·.environment.isEmpty)

/-- The outcome when no test decides in favour of the check. -/
def failing (check : Check) (reason : String) : CheckOutcome :=
  .ofReason (.failing check.scored) reason

/-- The outcome that the definition alone decides. -/
def decided? (check : Check) : Option CheckOutcome :=
  if check.scored ∧ check.mark = none ∧ check.tests = none then
    some (.ofReason .warn "There are no tests")
  else if check.mark = some .skip then some (.ofReason .info "Test marked as skip")
  else if check.mark = some .manual then some (.ofReason .warn "Test marked as a manual test")
  else if check.items.isEmpty then some (check.failing "No tests defined")
  else none

/-- This tests an item on one source after another until its locator is found. -/
def resolveFrom (check : Check) (outputs : Outputs) (item : TestItem) :
    TestOutcome × Source → List Source → Except Lookup.Fault (TestOutcome × Source)
  | resolved, [] => pure resolved
  | resolved, source :: rest =>
      match outputs.of? item source with
      | none => resolveFrom check outputs item resolved rest
      | some output => do
          let outcome ← item.evaluate source check.multipleValues output
          if outcome.found then pure (outcome, source)
          else resolveFrom check outputs item (outcome, source) rest

def resolve (check : Check) (outputs : Outputs) (item : TestItem) :
    Except Lookup.Fault (TestOutcome × Source) :=
  check.resolveFrom outputs item (.empty, .primary) Source.all

/-- The outcome of all test items, and the source of each. -/
def verdict (check : Check) (tests : TestSet) (outputs : Outputs) :
    Except EvaluationError (TestOutcome × List Source) := do
  let resolved ← (tests.items.mapM (check.resolve outputs)).mapError .lookup
  let combined ← tests.combinator.combine (resolved.map Prod.fst)
  pure (combined, resolved.map Prod.snd)

/-- The outcome that the tests decide. -/
def judge (check : Check) (outputs : Outputs) : CheckOutcome :=
  match check.tests with
  | none => check.failing "No tests defined"
  | some tests =>
      match check.verdict tests outputs with
      | .error error => check.failing error.message
      | .ok (combined, sources) =>
          ⟨if combined.matched then .pass else .failing check.scored, "", combined.actual,
            combined.expected, sources⟩

/-- The outcome of a check whose probes have been asked. -/
def evaluate (check : Check) (outputs : Outputs) : CheckOutcome :=
  check.decided?.getD (check.judge outputs)

/-- A missing configuration is no failure when the environment can tell as well. -/
def excused? (check : Check) (failure : ProbeFailure) : Option (Option String) :=
  if failure.isNotFound && check.hasEnvironmentProbe then some (some (failure.output?.getD ""))
  else none

/-- This asks the probes of a check, as far as the check has them. -/
def outputs (check : Check) (probe : Probe) : Asked Outputs :=
  (Asked.ask probe check.audit).andThen fun audit =>
  ((Asked.askUnlessBlank probe check.auditConfig).forgive check.excused?).andThen fun config =>
  (Asked.askUnlessBlank probe check.auditEnvironment).andThen fun environment =>
  Asked.pure ⟨audit, config, environment⟩

/-- The commands that running a check asks for, in order. -/
def commands (check : Check) (probe : Probe) : List String :=
  if check.decided?.isSome then [] else (check.outputs probe).commands

/-- The outcome of running a check on a host. -/
def run (check : Check) (probe : Probe) : CheckOutcome :=
  match check.decided? with
  | some outcome => outcome
  | none =>
      match (check.outputs probe).answer with
      | .error failure => check.failing failure.message
      | .ok outputs => check.judge outputs

end Check

end HostAudit
