import HostAudit.Text.Pieces

/-
This file fills placeholders in text. A placeholder is a dollar and a name; what does not have a
value stays as it is.
-/

namespace HostAudit

/-- Values under names, sorted by name. -/
abbrev Substitutions := List (String × String)

/-- This puts a value under a name, in place of one that may be there. -/
def Substitutions.insert (name value : String) : Substitutions → Substitutions
  | [] => [(name, value)]
  | (other, held) :: rest =>
      if name < other then (name, value) :: (other, held) :: rest
      else if name = other then (name, value) :: rest
      else (other, held) :: Substitutions.insert name value rest

namespace Placeholder

def startsName (c : Char) : Bool := c.isAlpha || c == '_'

def continuesName (c : Char) : Bool := c.isAlphanum || c == '_'

/-- A character of a text, or a placeholder in it. -/
inductive Chunk where
  | character (value : Char)
  | placeholder (name : List Char)
deriving DecidableEq, Repr

/-- The name at the start of a text: the longest run of its characters. -/
def name? (text : List Char) : Option (List Char) :=
  if text.head?.any startsName then some (text.takeWhile continuesName) else none

/-- The chunks of a text. -/
def chunks : List Char → List Chunk
  | [] => []
  | c :: rest =>
      if c = '$' then
        match name? rest with
        | some name => .placeholder name :: chunks (rest.drop name.length)
        | none => .character c :: chunks rest
      else .character c :: chunks rest
termination_by text => text.length

/-- A chunk as it is written. -/
def Chunk.chars : Chunk → List Char
  | character c => [c]
  | placeholder name => '$' :: name

/-- A chunk in which a placeholder gives way to its value. -/
def Chunk.filled (values : Substitutions) : Chunk → List Char
  | character c => [c]
  | placeholder name =>
      match values.lookup (String.ofList name) with
      | some value => value.toList
      | none => '$' :: name

def Chunk.name? : Chunk → Option String
  | character _ => none
  | placeholder name => some (String.ofList name)

/-- This fills the placeholders of a text. The values are not looked through again. -/
def fill (values : Substitutions) (text : String) : String :=
  String.ofList ((chunks text.toList).flatMap (Chunk.filled values))

/-- The names whose values were used, in the order of the values. -/
def applied (values : Substitutions) (text : String) : List String :=
  let names := (chunks text.toList).filterMap Chunk.name?
  (values.map Prod.fst).filter names.contains

/-- A name that stands for a program. -/
def namesProgram (name : String) : Bool :=
  (Text.after? ['n', 'i', 'b'] name.toList.reverse).isSome

/-- The values that were used of names that stand for programs. -/
def programs (values : Substitutions) (text : String) : List String :=
  ((applied values text).filter namesProgram).filterMap fun name => values.lookup name

end Placeholder

end HostAudit
