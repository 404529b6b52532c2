import HostAudit.Yaml.Token

/-
This file holds the nodes of YAML documents.
-/

namespace HostAudit.Yaml

/-- The number of a node's anchor, and its tag. -/
structure Properties where
  anchor : Option Nat
  tag : Option String
deriving DecidableEq, Repr

/-- An alias holds the number of the anchor that it names. -/
inductive Node where
  | scalar (properties : Properties) (style : Style) (text : String)
  | sequence (properties : Properties) (items : List Node)
  | mapping (properties : Properties) (pairs : List (Node × Node))
  | alias (anchor : Nat)
deriving Repr

namespace Node

/-- The node that stands where nothing is written. -/
def empty : Node := .scalar ⟨none, none⟩ .plain ""

def anchor? : Node → Option Nat
  | .scalar properties .. => properties.anchor
  | .sequence properties _ => properties.anchor
  | .mapping properties _ => properties.anchor
  | .alias _ => none

mutual

/-- A node and all nodes below it, in the order in which they begin. -/
def all : Node → List Node
  | .sequence properties items => .sequence properties items :: allItems items
  | .mapping properties pairs => .mapping properties pairs :: allPairs pairs
  | other => [other]

def allItems : List Node → List Node
  | [] => []
  | item :: rest => all item ++ allItems rest

def allPairs : List (Node × Node) → List Node
  | [] => []
  | (key, value) :: rest => all key ++ all value ++ allPairs rest

end

/-- A collection counts twice, for its start and for its end. -/
def weight : Node → Nat
  | .sequence .. => 2
  | .mapping .. => 2
  | _ => 1

end Node

/-- A text without any content has no root. -/
structure Document where
  root : Option Node
deriving Repr

namespace Document

def nodes (document : Document) : List Node := (document.root.map Node.all).getD []

/-- The last node to begin among those that bear the anchor. -/
def owner? (document : Document) (anchor : Nat) : Option Node :=
  document.nodes.reverse.find? fun node => node.anchor? = some anchor

/-- The node that a node stands for. -/
def follow? (document : Document) : Node → Option Node
  | .alias anchor => document.owner? anchor
  | node => some node

end Document

end HostAudit.Yaml
