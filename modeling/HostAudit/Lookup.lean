import HostAudit.Text.Blank
import HostAudit.Text.Pieces
import HostAudit.Json.Reader
import HostAudit.Yaml.Document
import HostAudit.Path.Reader
import HostAudit.Path.Selection
import HostAudit.Pattern.Reader

/-
This file looks for a locator in the output of a probe: for a flag, for an environment variable, or
for a path into a document. What is found is a text that is not empty.
-/

namespace HostAudit

/-- The forms of documents. -/
inductive Format where
  | json
  | yaml
  | either
deriving DecidableEq, Repr

/-- The ways to look for a locator. -/
inductive Lookup where
  | flag
  | environment
  | path (format : Format)
deriving DecidableEq, Repr

/-- The document of a text. A text may be in either form, JSON going first. -/
def Format.read? (format : Format) (text : String) : Option Json.Value :=
  match format with
  | json => Json.readDocument? text
  | yaml => (Yaml.Document.read? text).bind Yaml.Document.value?
  | either =>
      Json.readDocument? text <|> (Yaml.Document.read? text).bind Yaml.Document.value?

namespace Lookup

/-- Why a locator cannot be looked for. -/
inductive Fault where
  | malformedPath (malformed : Path.Malformed)
  | oversized (locator : String)
deriving DecidableEq, Repr

def Fault.message : Fault → String
  | malformedPath malformed => malformed.message
  | oversized locator =>
      "invalid flag in test item definition '" ++ locator ++
        "': Compiled regex exceeds size limit of " ++ Integer.naturalText Pattern.sizeLimit ++
        " bytes."

/-- This drops equals signs, and colons with the spaces after them. -/
def dropSeparators (afterColon : Bool) : List Char → List Char
  | '=' :: rest => dropSeparators false rest
  | ':' :: rest => dropSeparators true rest
  | ' ' :: rest => if afterColon then dropSeparators true rest else ' ' :: rest
  | rest => rest

/-- The value of a flag, from the text after the flag. A flag without a value has the value `true`
if it begins with two hyphens, and else it is its own value. -/
def flagValue (flag tail : List Char) : List Char :=
  let value := (dropSeparators false tail).takeWhile (!Text.isBlank ·)
  if !value.isEmpty then value
  else if (Text.after? ['-', '-'] flag).isSome then ['t', 'r', 'u', 'e']
  else flag

/-- The value of a flag at its first occurrence. -/
def flag? (text flag : List Char) : Option (List Char) :=
  if flag.isEmpty then none
  else (Text.breakOn flag text).map fun (_, tail) => flagValue flag tail

/-- The value of a variable at the first occurrence of its name before an equals sign, up to the end
of the line. An empty value is none. -/
def environment? (text name : List Char) : Option (List Char) :=
  if name.isEmpty then none
  else
    let value? := (Text.breakOn (name ++ ['=']) text).map fun (_, tail) =>
      Text.dropTrailing (· == '\r') (tail.takeWhile (· ≠ '\n'))
    value?.filter (!·.isEmpty)

/-- The text that a path selects. A text that is no document has no nodes. -/
def pathValue? (format : Format) (text : String) (template : Path.Template) : Option String :=
  let found? := (format.read? text).map template.evaluate
  (found?.filter fun found => found.count ≠ 0 ∧ found.value ≠ "").map Path.Match.value

/-- The room that the pattern for a flag takes beside the flag itself. -/
def flagRoom : Nat := 76

/-- The room that the pattern for a variable takes beside the name of the variable. -/
def environmentRoom : Nat := 38

/-- A locator and the rest of its pattern are small enough for a pattern. -/
def fits (rest : Nat) (locator : String) : Bool :=
  Integer.total (locator.toList.map Char.utf8Size) + rest ≤ Pattern.weightLimit

/-- This tells what was found of a locator, unless its pattern is too large to look for it. -/
def ifFits (rest : Nat) (locator : String) (found : Option (List Char)) :
    Except Fault (Option String) :=
  if fits rest locator then .ok (found.map String.ofList) else .error (.oversized locator)

/-- This looks for a locator in a text. No pattern is made for a flag that does not occur, nor for a
variable in an empty text. -/
def find (lookup : Lookup) (text locator : String) : Except Fault (Option String) :=
  match lookup with
  | flag =>
      match flag? text.toList locator.toList with
      | none => .ok none
      | some value => ifFits flagRoom locator (some value)
  | environment =>
      if text.isEmpty || locator.isEmpty then .ok none
      else ifFits environmentRoom locator (environment? text.toList locator.toList)
  | path format =>
      ((Path.Template.read? locator).mapError .malformedPath).map (pathValue? format text)

end Lookup

end HostAudit
