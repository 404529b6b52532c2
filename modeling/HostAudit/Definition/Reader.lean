import HostAudit.Catalog
import HostAudit.Definition.Readable
import HostAudit.Report

/-
This file reads definitions. Fields may be missing, and lists and scalars may be null.
-/

namespace HostAudit.Definition

open Readable

variable {S : Type} [Readable S]

/-- This reads the field of a name; a missing field gives `missing`. -/
def field {A : Type} (members : List (String × S)) (name : String) (read? : S → Option A)
    (missing : Option A) : Option A :=
  match members.lookup name with
  | some value => read? value
  | none => missing

/-- This reads a scalar of any kind; null reads as the empty text. -/
def scalarOrEmpty? (value : S) : Option String := do
  match ← optional? value with
  | some value => scalar? value
  | none => pure ""

/-- This reads what is there if anything is. -/
def ifPresent? {A : Type} (read? : S → Option A) (value : S) : Option (Option A) := do
  match ← optional? value with
  | some value => (read? value).map some
  | none => pure none

/-- This reads a list; null reads as the empty list. -/
def list? {A : Type} (read? : S → Option A) (value : S) : Option (List A) := do
  match ← optional? value with
  | some value => (← items? value).mapM read?
  | none => pure []

def operator? (value : S) : Option Operator :=
  (text? value).map fun name => .ofName (Text.trimmed name)

def requirementFields : List String := ["op", "value"]

/-- This reads a requirement, which must name its operator. -/
def requirement? (value : S) : Option Requirement := do
  let members ← members? requirementFields value
  let operator ← field members "op" operator? none
  let value ← field members "value" scalarOrEmpty? (some "")
  pure ⟨operator, value⟩

/-- This reads the requirement of an item. Without an operator there is none. -/
def itemRequirement? (value : S) : Option (Option Requirement) := do
  match ← optional? value with
  | none => pure none
  | some value =>
      let members ← members? requirementFields value
      let name ← field members "op" scalarOrEmpty? (some "")
      let value ← field members "value" scalarOrEmpty? (some "")
      let name := Text.trimmed name
      pure (if name.isEmpty then none else some ⟨.ofName name, value⟩)

def testItem? (value : S) : Option TestItem := do
  let members ← members? ["flag", "path", "env", "set", "compare"] value
  let flag ← field members "flag" text? (some "")
  let path ← field members "path" text? (some "")
  let environment ← field members "env" text? (some "")
  let present ← field members "set" bool? (some true)
  let requirement ← field members "compare" itemRequirement? (some none)
  pure ⟨flag, path, environment, present, requirement⟩

def combinator? (value : S) : Option Combinator :=
  (ifPresent? text? value).map fun name? => (name?.map Combinator.ofName).getD .all

def testSet? (value : S) : Option TestSet := do
  let members ← members? ["test_items", "bin_op"] value
  let items ← field members "test_items" (list? testItem?) (some [])
  let combinator ← field members "bin_op" combinator? (some .all)
  pure ⟨items, combinator⟩

/-- This reads a mark. A blank one is none. -/
def mark? (value : S) : Option (Option Mark) := do
  match ← ifPresent? text? value with
  | none => pure none
  | some name =>
      let name := Text.trimmed name
      if name.isEmpty then pure none else (Mark.ofName? name).map some

def checkFields : List String :=
  ["id", "text", "audit", "audit_config", "audit_env", "type", "tests", "remediation", "scored",
    "use_multiple_values", "disable_env_testing"]

def check? (value : S) : Option Check := do
  let members ← members? checkFields value
  let id ← field members "id" scalarOrEmpty? (some "")
  let text ← field members "text" text? (some "")
  let audit ← field members "audit" text? (some "")
  let auditConfig ← field members "audit_config" text? (some "")
  let auditEnvironment ← field members "audit_env" text? (some "")
  let mark ← field members "type" mark? (some none)
  let tests ← field members "tests" (ifPresent? testSet?) (some none)
  let remediation ← field members "remediation" text? (some "")
  let scored ← field members "scored" bool? (some false)
  let multipleValues ← field members "use_multiple_values" bool? (some false)
  let noEnvironmentProbe ← field members "disable_env_testing" bool? (some false)
  pure ⟨id, text, audit, auditConfig, auditEnvironment, mark, tests, remediation, scored,
    multipleValues, noEnvironmentProbe⟩

def group? (value : S) : Option Group := do
  let members ← members? ["id", "text", "type", "checks"] value
  let id ← field members "id" scalarOrEmpty? (some "")
  let text ← field members "text" text? (some "")
  let kind ← field members "type" scalarOrEmpty? (some "")
  let checks ← field members "checks" (list? check?) (some [])
  pure ⟨id, text, kind, checks⟩

def catalog? (value : S) : Option Catalog := do
  let members ← members? ["id", "version", "text", "type", "groups"] value
  let id ← field members "id" scalarOrEmpty? (some "")
  let version ← field members "version" scalarOrEmpty? (some "")
  let text ← field members "text" text? (some "")
  let target ← field members "type" text? (some "")
  let groups ← field members "groups" (list? group?) (some [])
  pure ⟨id, version, text, target, groups⟩

/-- This reads the four counters, all of which must be there. -/
def summary? (value : S) : Option Summary := do
  let members ← members? ["total_pass", "total_fail", "total_warn", "total_info"] value
  let pass ← field members "total_pass" count? none
  let fail ← field members "total_fail" count? none
  let warn ← field members "total_warn" count? none
  let info ← field members "total_info" count? none
  pure ⟨pass, fail, warn, info⟩

/-- This reads the name of a mark, of a state or of a source. -/
def markName? (value : S) : Option Mark := (choice? value).bind Mark.ofName?

def stateName? (value : S) : Option State := (choice? value).bind State.ofName?

def sourceName? (value : S) : Option Source := (choice? value).bind Source.ofName?

/-- This reads a definition from the text of a YAML document. -/
def ofYaml? {A : Type} (read? : Place → Option A) (text : String) : Option A :=
  (Yaml.Document.read? text).bind fun document => read? (.root document)

/-- This reads a definition from the text of a JSON document. -/
def ofJson? {A : Type} (read? : Json.Value → Option A) (text : String) : Option A :=
  (Json.read? text).bind read?

end HostAudit.Definition
