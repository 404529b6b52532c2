import HostAudit.Report.Rendered

/-
This file holds what a command line can ask for, and what can be wrong with one.
-/

namespace HostAudit

/-- What `run` is asked for. -/
structure RunRequest where
  catalogs : List String
  target : Option String
  groups : List String
  checks : List String
  skipped : List String
  onlyScored : Bool
  onlyUnscored : Bool
  form : Report.Form
  output : Option String
  options : Report.Options
  failOnWarn : Bool
deriving DecidableEq, Repr

/-- What `validate` is asked for. -/
structure ValidateRequest where
  catalogs : List String
  target : Option String
deriving DecidableEq, Repr

inductive Request where
  | run (request : RunRequest)
  | validate (request : ValidateRequest)
  | init (force : Bool)
  | manual (directory : String)
deriving DecidableEq, Repr

/-- A command line: how much to tell, where the settings are, and what to do. -/
structure CommandLine where
  verbosity : Nat
  settings : Option String
  request : Request
deriving DecidableEq, Repr

/-- Why a command line asks for nothing that can be done. Help and the version are told instead. -/
inductive UsageFault where
  | help
  | version
  | nothingGiven
  | missingCommand
  | unknownCommand
  | unknownOption
  | badValue
  | unwantedValue
  | conflict
deriving DecidableEq, Repr

namespace UsageFault

/-- Only help and the version are what was asked for. -/
def exitCode : UsageFault → Nat
  | help => 0
  | version => 0
  | _ => 2

end UsageFault

end HostAudit
