import HostAudit.Json.Value
import HostAudit.Yaml.Document

/-
This file says what definitions are read from: values that show themselves as texts, as truth
values, as lists, or as fields with names.
-/

namespace HostAudit.Definition

class Readable (S : Type) where
  /-- The value of a text. -/
  text? : S → Option String
  bool? : S → Option Bool
  /-- The value of a number that counts. -/
  count? : S → Option Nat
  /-- The text of a value that is a text, a number or a truth value. -/
  scalar? : S → Option String
  /-- What is there if anything is. -/
  optional? : S → Option (Option S)
  items? : S → Option (List S)
  /-- The members under the given names. Where members have no names, they take these in turn. -/
  members? : List String → S → Option (List (String × S))
  /-- The name of a value that is one of several names. -/
  choice? : S → Option String

def boolText (value : Bool) : String := if value then "true" else "false"

/-- The text of a whole number. Beyond the signed 64-bit words, the nearest binary64 value stands
in. -/
def integerText (value : Int) : String :=
  if Integer.fitsSigned value then Integer.text value else (Double.ofInt value).plainText

/-- This gives names to items, of which there must not be more than names. -/
def named? {S : Type} : List String → List S → Option (List (String × S))
  | _, [] => some []
  | [], _ :: _ => none
  | name :: names, item :: items => (named? names items).map ((name, item) :: ·)

/-- No name occurs twice. -/
def areDistinct : List String → Bool
  | [] => true
  | name :: names => !names.contains name && areDistinct names

/-- The members under the given names, none of which may occur twice. -/
def known? {S : Type} (names : List String) (members : List (String × S)) :
    Option (List (String × S)) :=
  let known := members.filter fun member => names.contains member.1
  if areDistinct (known.map Prod.fst) then some known else none

section Json

open Json (Value)

def jsonScalar? : Value → Option String
  | .text value => some value
  | .bool value => some (boolText value)
  | .number (.integer value) => some (integerText value)
  | .number (.double value) => some value.plainText
  | _ => none

instance : Readable Value where
  text?
    | .text value => some value
    | _ => none
  bool?
    | .bool value => some value
    | _ => none
  count?
    | .number (.integer (.ofNat value)) => some value
    | _ => none
  scalar? := jsonScalar?
  optional?
    | .null => some none
    | value => some (some value)
  items?
    | .array items => some items
    | _ => none
  members?
    | names, .object members => known? names members
    | names, .array items => named? names items
    | _, _ => none
  choice?
    | .text name => some name
    | .object [(name, .null)] => some name
    | _ => none

end Json

section Yaml

open Yaml (Document Node Meaning)

/-- A node of a document, or the place of the root in an empty one. -/
structure Place where
  document : Document
  node : Option Node

namespace Place

def root (document : Document) : Place := ⟨document, document.root⟩

/-- The node of a place, or the one that its alias names. -/
def followed? (place : Place) : Option Node := place.node.bind place.document.follow?

/-- Nothing is written at a place. -/
def isEmpty (place : Place) : Bool :=
  match place.followed? with
  | some (.scalar _ .plain text) => text.isEmpty
  | some _ => false
  | none => true

/-- The text of a scalar that is written plainly, or as a block whose tag tells what it is. -/
def plainText? (tag : String) (place : Place) : Option String :=
  match place.followed? with
  | some (.scalar properties style text) =>
      if style = .plain ∨ (style = .literal ∧ properties.tag = some tag) then some text else none
  | _ => none

def meaningText? : Meaning → Option String
  | .text value => some value
  | .bool value => some (boolText value)
  | .integer value => if Json.Number.fits value then some (integerText value) else none
  | .double value => some value.plainText
  | .null => none

def scalar? (place : Place) : Option String :=
  match place.followed? with
  | some (.scalar properties style text) =>
      if properties.tag.any Meaning.isLocal then none
      else (Meaning.ofScalar? properties.tag style text).bind meaningText?
  | _ => none

def optional? (place : Place) : Option (Option Place) :=
  match place.followed? with
  | none => some none
  | some (.scalar properties .plain text) =>
      match properties.tag with
      | some "tag:yaml.org,2002:null" => if Meaning.isNull text then some none else none
      | some _ => some (some place)
      | none => some (if text.isEmpty || Meaning.isNull text then none else some place)
  | some _ => some (some place)

def items? (place : Place) : Option (List Place) :=
  match place.followed? with
  | some (.sequence _ items) => some (items.map fun item => ⟨place.document, some item⟩)
  | _ => if place.isEmpty then some [] else none

/-- The text of a key, which must be a scalar. -/
def keyText? (document : Document) (key : Node) : Option String :=
  match document.follow? key with
  | some (.scalar _ _ text) => some text
  | _ => none

def members? (names : List String) (place : Place) : Option (List (String × Place)) :=
  match place.followed? with
  | some (.mapping _ pairs) => do
      let members ← pairs.mapM fun (key, value) =>
        (keyText? place.document key).map fun name => (name, Place.mk place.document (some value))
      known? names members
  | _ => if place.isEmpty then some [] else none

/-- The name that a scalar spells, or a local tag on nothing. -/
def choice? (place : Place) : Option String :=
  match place.followed? with
  | some (.scalar properties style text) =>
      match properties.tag.filter Meaning.isLocal with
      | some tag =>
          if style = .plain ∧ (text.isEmpty || Meaning.isNull text) then
            some (String.ofList (tag.toList.drop 1))
          else none
      | none => some text
  | _ => none

end Place

instance : Readable Place where
  text? place :=
    match place.followed? with
    | some (.scalar _ _ text) => some text
    | _ => none
  bool? place := (place.plainText? "tag:yaml.org,2002:bool").bind Meaning.bool?
  count? place := do
    let text ← place.plainText? "tag:yaml.org,2002:int"
    let value ← Meaning.integer? text.toList
    if text.toList.head? = some '-' ∨ 2 ^ 64 ≤ value then none else some value.toNat
  scalar? := Place.scalar?
  optional? := Place.optional?
  items? := Place.items?
  members? := Place.members?
  choice? := Place.choice?

end Yaml

end HostAudit.Definition
