import HostAudit.Catalog.NumericId
import HostAudit.Catalog.Placeholder
import HostAudit.Definition.Reader

/-
This file reads catalogs from text: it fills the placeholders, reads the definitions, and adds
probes for environments where they are needed.
-/

namespace HostAudit

/-- What reading a catalog depends on: the values of placeholders, the target that it must have, and
the process whose environment is asked for. -/
structure LoadOptions where
  substitutions : Substitutions
  target : Option String
  process : Option String
deriving DecidableEq, Repr

/-- Why a text is not taken for a catalog. -/
inductive CatalogFault where
  | malformed
  | targetMismatch (target : String)
deriving DecidableEq, Repr

/-- The command that prints the environment of a process, a variable a line. -/
def environmentProbe (process : String) : String :=
  "cat \"/proc/$(/bin/ps -C " ++ process ++
    " -o pid= | tr -d ' ')/environ\" | tr '\\0' '\\n'"

/-- The check names environment variables, allows a probe for them, and has none. -/
def Check.needsEnvironmentProbe (check : Check) : Bool :=
  !check.noEnvironmentProbe && !check.hasEnvironmentProbe && check.usesEnvironment

def Check.withEnvironmentProbe (process : String) (check : Check) : Check :=
  if check.needsEnvironmentProbe then { check with auditEnvironment := environmentProbe process }
  else check

def Group.withEnvironmentProbes (process : String) (group : Group) : Group :=
  { group with checks := group.checks.map (Check.withEnvironmentProbe process) }

namespace Catalog

/-- This adds the probes that are needed; without a process there are none to add. -/
def withEnvironmentProbes (process : Option String) (catalog : Catalog) : Catalog :=
  match process with
  | none => catalog
  | some process =>
      { catalog with groups := catalog.groups.map (Group.withEnvironmentProbes process) }

/-- The definitions in a text whose placeholders have been filled. -/
def ofFilled? (text : String) : Option Catalog :=
  Definition.ofYaml? Definition.catalog? (String.ofList (NumericId.quote text.toList))

/-- The process whose environment is asked for: the one that is named, or else the only program
among the values that were used. -/
def process? (options : LoadOptions) (text : String) : Option String :=
  options.process <|>
    match Placeholder.programs options.substitutions text with
    | [program] => some program
    | _ => none

/-- This reads a catalog. -/
def read (options : LoadOptions) (text : String) : Except CatalogFault Catalog :=
  match ofFilled? (Placeholder.fill options.substitutions text) with
  | none => .error .malformed
  | some catalog =>
      match options.target.filter (· ≠ catalog.target) with
      | some target => .error (.targetMismatch target)
      | none => .ok (catalog.withEnvironmentProbes (process? options text))

end Catalog

end HostAudit
