import HostAudit.Json.Value
import HostAudit.Yaml.Meaning
import HostAudit.Yaml.Node.Reader

/-
This file turns YAML documents into plain values.
-/

namespace HostAudit.Yaml

/-- Numbers that are not finite have no value of their own, and those beyond 64 bits none at all. -/
def Meaning.value? : Meaning → Option Json.Value
  | null => some .null
  | bool value => some (.bool value)
  | integer value =>
      if Json.Number.fits value then some (.number (.integer value)) else none
  | double value => some (if value.isFinite then .number (.double value) else .null)
  | text value => some (.text value)

namespace Document

/-- A step of following aliases, of which only so many may be followed. -/
abbrev Follow := StateT Nat Option

/-- The node that a node stands for. -/
def followed (document : Document) : Node → Follow Node
  | .alias anchor => fun allowed => match allowed, document.owner? anchor with
      | allowed + 1, some node => some (node, allowed)
      | _, _ => none
  | node => pure node

/-- The text of a scalar, whatever its tag and style. -/
def name (document : Document) (node : Node) : Follow String := do
  match ← document.followed node with
  | .scalar _ _ text => pure text
  | _ => failure

def isUntagged (properties : Properties) : Bool := !(properties.tag.any Meaning.isLocal)

/-- The value of a node, in which collections nest `depth` deep at most. -/
def valueOf (document : Document) : Nat → Node → Follow Json.Value
  | depth, node => do
      match ← document.followed node, depth with
      | .scalar properties style text, _ =>
          if isUntagged properties then
            let meaning ← liftM (Meaning.ofScalar? properties.tag style text)
            liftM meaning.value?
          else failure
      | .sequence properties items, depth + 1 =>
          if isUntagged properties then
            let items ← items.mapM (valueOf document depth)
            pure (.array items)
          else failure
      | .mapping properties pairs, depth + 1 =>
          if isUntagged properties then
            let members ← pairs.mapM fun (key, value) => do
              let name ← document.name key
              let value ← valueOf document depth value
              pure (name, value)
            pure (.object members)
          else failure
      | _, _ => failure

/-- Collections nest at most this deep in a value. -/
def nestingLimit : Nat := 128

/-- For each start and end of a node, this many aliases may be followed. -/
def aliasesPerMark : Nat := 100

/-- The value of a document, its members sorted by name and the last of equal names winning. -/
def value? (document : Document) : Option Json.Value :=
  match document.root with
  | none => some .null
  | some root =>
      let allowed := aliasesPerMark * Integer.total (document.nodes.map Node.weight)
      (document.valueOf nestingLimit root allowed).map fun (value, _) => value.sorted

end Document

end HostAudit.Yaml
