import HostAudit.Settings
import HostAudit.Toml.Quoted
import HostAudit.Toml.Reader

/-
This file writes settings as text.
-/

namespace HostAudit.Settings

open Toml (Quoting)

def quotedChars (text : String) : List Char := Toml.quoted text.toList

/-- A name stands without quotes if it can. -/
def nameChars (name : String) : List Char :=
  let chars := name.toList
  if !chars.isEmpty && chars.all Toml.isBare then chars
  else Toml.quotedAs (.ofName chars) chars

/-- A line that gives a value to a name. -/
def line (name : String) (value : List Char) : List Char :=
  nameChars name ++ [' ', '=', ' '] ++ value ++ ['\n']

/-- A line that is left out when there is no value. -/
def optionalLine (name : String) (value : Option String) : List Char :=
  (value.map fun value => line name (quotedChars value)).getD []

/-- An item of a list on a line of its own. -/
def itemLine (text : String) : List Char :=
  [' ', ' ', ' ', ' '] ++ quotedChars text ++ [',', '\n']

/-- A list of one item or none stands on one line. -/
def listChars : List String → List Char
  | [] => ['[', ']']
  | [text] => '[' :: quotedChars text ++ [']']
  | texts => '[' :: '\n' :: texts.flatMap itemLine ++ [']']

def heading (name : String) : List Char := '[' :: name.toList ++ [']', '\n']

/-- The text of settings, a section for each part. -/
def chars (settings : Settings) : List Char :=
  heading "probe" ++
    line "shell" (quotedChars settings.probe.shell) ++
    optionalLine "env_process" settings.probe.process ++
    '\n' :: heading "substitutions" ++
    (settings.substitutions.flatMap fun entry => line entry.1 (quotedChars entry.2)) ++
    '\n' :: heading "run" ++
    line "skip" (listChars settings.run.skipped) ++
    optionalLine "target" settings.run.target ++
    line "catalogs" (listChars settings.run.catalogs)

def written (settings : Settings) : String := String.ofList settings.chars

end HostAudit.Settings
