import HostAudit.Text.Pieces
import HostAudit.Json.Writer
import HostAudit.Path.Template

/-
This file selects the nodes of a document that a template names, and writes them out.
-/

namespace HostAudit

namespace Json.Value

mutual

/-- The number of nodes in a document. -/
def size : Value → Nat
  | .array items => 1 + sizeItems items
  | .object members => 1 + sizeMembers members
  | _ => 1

def sizeItems : List Value → Nat
  | [] => 0
  | item :: rest => size item + sizeItems rest

def sizeMembers : List (String × Value) → Nat
  | [] => 0
  | (_, value) :: rest => size value + sizeMembers rest

end

theorem sizeItems_eq (items : List Value) : sizeItems items = Integer.total (items.map size) := by
  induction items with
  | nil => rfl
  | cons item rest ih => simp [sizeItems, ih]

theorem sizeMembers_eq (members : List (String × Value)) :
    sizeMembers members = Integer.total ((members.map Prod.snd).map size) := by
  induction members with
  | nil => rfl
  | cons member rest ih => simp [sizeMembers, ih]

theorem total_children (node : Value) :
    Integer.total (node.children.map size) + 1 = node.size := by
  cases node <;> simp [children, size, sizeItems_eq, sizeMembers_eq, Nat.add_comm]

end Json.Value

namespace Path

open Json (Value)

/-- The position of an index, which may fall outside. -/
def position? (index : Int) (length : Nat) : Option Nat :=
  if 0 ≤ index then some index.toNat
  else if index.natAbs ≤ length then some (length - index.natAbs)
  else none

/-- The position of a bound of a slice, moved into the array. -/
def clamp (bound : Int) (length : Nat) : Nat :=
  if 0 ≤ bound then min bound.toNat length else length - bound.natAbs

/-- The items of a list from one bound up to another. -/
def sliced {A : Type} (first last : Option Int) (items : List A) : List A :=
  let start := (first.map (clamp · items.length)).getD 0
  let stop := (last.map (clamp · items.length)).getD items.length
  (items.take stop).drop start

/-- The nodes that a selector picks at a node. -/
def Selector.select (selector : Selector) (node : Value) : List Value :=
  match selector, node with
  | field name, .object members => (members.lookup name).toList
  | index position, .array items =>
      ((position? position items.length).bind fun found => items[found]?).toList
  | slice first last, .array items => sliced first last items
  | wildcard, node => node.children
  | _, _ => []

/-- The nodes of a stack and all below them, each node before its children. -/
def nodesFrom : List Value → List Value
  | [] => []
  | node :: stack => node :: nodesFrom (node.children ++ stack)
termination_by stack => Integer.total (stack.map Value.size)
decreasing_by
  have := Value.total_children node
  simp only [List.map_append, Integer.total_append, List.map_cons, Integer.total_cons]
  omega

def Step.select (step : Step) (node : Value) : List Value :=
  match step with
  | child selector => selector.select node
  | descend selector => (nodesFrom [node]).flatMap selector.select

/-- The nodes that the steps lead to from a list of nodes. -/
def select (steps : List Step) (nodes : List Value) : List Value :=
  steps.foldl (fun nodes step => nodes.flatMap step.select) nodes

/-- The text of a node; a null has none. -/
def written? : Value → Option String
  | .null => none
  | .text value => some value
  | node => some node.compact

/-- What a template gives on a document: its text, and how many nodes it shows. -/
structure Match where
  value : String
  count : Nat
deriving DecidableEq, Repr

def Segment.evaluate (document : Value) : Segment → Match
  | .text content => ⟨content, 0⟩
  | .expression steps =>
      let texts := (select steps [document]).filterMap written?
      ⟨Text.joined " " texts, texts.length⟩

/-- The texts of the segments one after another. -/
def Template.evaluate (template : Template) (document : Value) : Match :=
  let parts := template.segments.map (Segment.evaluate document)
  ⟨Text.joined "" (parts.map Match.value), Integer.total (parts.map Match.count)⟩

end Path

end HostAudit
