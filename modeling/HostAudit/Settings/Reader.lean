import HostAudit.Settings
import HostAudit.Toml.Reader

/-
This file reads settings. What is missing has its standard value, and what is not known is ignored.
-/

namespace HostAudit.Settings

open Toml (Value)

/-- The name under which a moment shows its text. -/
def momentName : String := "$__toml_private_datetime"

/-- The members of a table. -/
def table? : Value → Option (List (String × Value))
  | .table members => some members
  | .moment text => some [(momentName, .text text)]
  | _ => none

/-- The fields of a section. Items without names stand for the fields in turn. -/
def fields? (names : List String) : Value → Option (List (String × Value))
  | .array items => some (names.zip items)
  | value => table? value

def text? : Value → Option String
  | .text value => some value
  | _ => none

def texts? : Value → Option (List String)
  | .array items => items.mapM text?
  | _ => none

/-- This reads the field of a name; a missing field gives `missing`. -/
def field {A : Type} (members : List (String × Value)) (name : String) (read? : Value → Option A)
    (missing : A) : Option A :=
  match members.lookup name with
  | some value => read? value
  | none => some missing

def probe? (value : Value) : Option ProbeSettings := do
  let members ← fields? ["shell", "env_process"] value
  let shell ← field members "shell" text? defaultShell
  let process ← field members "env_process" (fun value => (text? value).map some) none
  pure ⟨shell, process⟩

/-- This reads texts under names, and sorts them by name. -/
def substitutions? (value : Value) : Option Substitutions := do
  let members ← table? value
  let texts ← members.mapM fun (name, value) => (text? value).map fun text => (name, text)
  pure (texts.foldl (fun values entry => Substitutions.insert entry.1 entry.2 values) [])

def run? (value : Value) : Option RunSettings := do
  let members ← fields? ["skip", "target", "catalogs"] value
  let skipped ← field members "skip" texts? []
  let target ← field members "target" (fun value => (text? value).map some) none
  let catalogs ← field members "catalogs" texts? []
  pure ⟨skipped, target, catalogs⟩

/-- This reads settings from the members of a document. -/
def ofMembers? (members : List (String × Value)) : Option Settings := do
  let probe ← field members "probe" probe? .standard
  let substitutions ← field members "substitutions" substitutions? []
  let run ← field members "run" run? .standard
  pure ⟨probe, substitutions, run⟩

/-- This reads settings from text. -/
def read? (text : String) : Option Settings := (Toml.read? text).bind ofMembers?

end HostAudit.Settings
