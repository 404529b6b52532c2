import HostAudit.Lookup
import HostAudit.Proofs.ByteOrder
import Mathlib.Data.List.Basic
import Mathlib.Data.List.Pairwise

/-
This file puts the nodes of a document in order. A node has a position, which is the edges that lead
to it from the root. Every document that is read keeps its members in the order of their names.
-/

namespace HostAudit

namespace Json

/-- An edge leads from a node to a child. -/
inductive Edge where
  | item (number : Nat)
  | member (name : String)
deriving DecidableEq, Repr

/-- Items stand in the order of their numbers, and members in that of the bytes of their names. -/
inductive Edge.Precedes : Edge → Edge → Prop
  | item {first second : Nat} (less : first < second) : Precedes (.item first) (.item second)
  | member {first second : String}
      (less : Text.Utf8.bytes first < Text.Utf8.bytes second) :
      Precedes (.member first) (.member second)

/-- Edges that follow one another are different. -/
theorem Edge.Precedes.ne {first second : Edge} (precedes : first.Precedes second) :
    first ≠ second := by
  rintro rfl
  cases precedes with
  | item less => exact absurd less (Nat.lt_irrefl _)
  | member less => exact absurd less (List.lt_irrefl _)

/-- The edges that lead from the root of a document to a node. -/
abbrev Position := List Edge

/-- In the order of a document a node stands before those below it, and what is below a child stands
before what is below a later child. -/
abbrev Position.Precedes : Position → Position → Prop := List.Lex Edge.Precedes

/-- Positions that follow one another are different. -/
theorem Position.Precedes.ne {first second : Position} (precedes : first.Precedes second) :
    first ≠ second := by
  induction precedes with
  | nil => simp
  | rel precedes => simp [precedes.ne]
  | cons _ ih => simpa using ih

namespace Value

/-- The children of a node, each with the edge that leads to it. -/
def edges : Value → List (Edge × Value)
  | .array items => items.zipIdx.map fun (item, place) => (.item place, item)
  | .object members => members.map fun (name, value) => (.member name, value)
  | _ => []

/-- Edges lead to the children of a node, in order. -/
theorem map_snd_edges (node : Value) : node.edges.map Prod.snd = node.children := by
  cases node with
  | array items => simp [edges, children, Function.comp_def, List.zipIdx_map_fst]
  | object members => simp [edges, children]
  | _ => rfl

theorem length_edges_array (items : List Value) : (array items).edges.length = items.length := by
  simp [edges]

theorem length_edges_object (members : List (String × Value)) :
    (object members).edges.length = members.length := by
  simp [edges]

/-- Edges lead from a node down to a node. -/
inductive Reaches : Value → Position → Value → Prop
  | here (node : Value) : Reaches node [] node
  | child {node next target : Value} {edge : Edge} {below : Position}
      (leads : (edge, next) ∈ node.edges) (goes : Reaches next below target) :
      Reaches node (edge :: below) target

/-- Ways through a document are put together. -/
theorem Reaches.append {node inner target : Value} {above below : Position}
    (first : node.Reaches above inner) (second : inner.Reaches below target) :
    node.Reaches (above ++ below) target := by
  induction first with
  | here => exact second
  | child leads _ ih => exact .child leads (ih second)

/-- In every object of a document the members stand in the order of the bytes of their names. -/
def Ordered (document : Value) : Prop :=
  ∀ position members, document.Reaches position (.object members) →
    members.Pairwise fun first second => Text.Utf8.bytes first.1 < Text.Utf8.bytes second.1

/-- What lies below an ordered node is ordered. -/
theorem Ordered.child {node next : Value} {edge : Edge} (ordered : node.Ordered)
    (leads : (edge, next) ∈ node.edges) : next.Ordered :=
  fun position members goes => ordered (edge :: position) members (.child leads goes)

/-- Wherever an ordered node leads, it is ordered. -/
theorem Ordered.reached {node target : Value} {position : Position} (ordered : node.Ordered)
    (goes : node.Reaches position target) : target.Ordered := by
  induction goes with
  | here => exact ordered
  | child leads _ ih => exact ih (ordered.child leads)

/-- Items are numbered upwards. -/
theorem pairwise_zipIdx {A : Type} (items : List A) (start : Nat) :
    (items.zipIdx start).Pairwise fun first second => first.2 < second.2 := by
  induction items generalizing start with
  | nil => exact .nil
  | cons item rest ih =>
      rw [List.zipIdx_cons, List.pairwise_cons]
      exact ⟨fun entry member => List.le_snd_of_mem_zipIdx member, ih (start + 1)⟩

/-- The children of a node stand in the order of the document. -/
theorem Ordered.pairwise_edges {node : Value} (ordered : node.Ordered) :
    node.edges.Pairwise fun first second => first.1.Precedes second.1 := by
  cases node with
  | array items =>
      rw [edges, List.pairwise_map]
      exact (pairwise_zipIdx items 0).imp .item
  | object members =>
      rw [edges, List.pairwise_map]
      exact (ordered [] members (.here _)).imp .member
  | _ => exact .nil

section Sorting

/-- Putting a member among others adds no other. -/
theorem mem_putNew {name : String} {value : Value} {members : List (String × Value)}
    {member : String × Value} (inside : member ∈ putNew name value members) :
    member = (name, value) ∨ member ∈ members := by
  induction members with
  | nil => simpa [putNew] using inside
  | cons other rest ih =>
      rw [putNew] at inside
      split at inside
      · exact List.mem_cons.mp inside
      · split at inside
        · exact .inr inside
        · rcases List.mem_cons.mp inside with rfl | further
          · simp
          · exact (ih further).imp_right (List.mem_cons_of_mem _)

/-- A member is put in its place among sorted ones. -/
theorem pairwise_putNew (name : String) (value : Value) {members : List (String × Value)}
    (sorted : members.Pairwise fun first second => first.1 < second.1) :
    (putNew name value members).Pairwise fun first second => first.1 < second.1 := by
  induction members with
  | nil => simp [putNew]
  | cons other rest ih =>
      obtain ⟨least, others⟩ := List.pairwise_cons.mp sorted
      rw [putNew]
      split
      · rename_i before
        refine List.pairwise_cons.mpr ⟨fun member inside => ?_, sorted⟩
        rcases List.mem_cons.mp inside with rfl | further
        · exact before
        · exact lt_trans before (least member further)
      · rename_i notBefore
        split
        · exact sorted
        · rename_i different
          have behind : other.1 < name := lt_of_le_of_ne (not_lt.mp notBefore) (Ne.symm different)
          refine List.pairwise_cons.mpr ⟨fun member inside => ?_, ih others⟩
          rcases mem_putNew inside with rfl | further
          · exact behind
          · exact least member further

/-- Sorted members are in the order of their names, each name once. -/
theorem pairwise_sortedMembers (members : List (String × Value)) :
    (sortedMembers members).Pairwise fun first second => first.1 < second.1 := by
  induction members with
  | nil => exact .nil
  | cons member rest ih => exact pairwise_putNew _ _ ih

/-- The items of a sorted array are sorted. -/
theorem sorted_of_mem_items {items : List Value} {value : Value}
    (inside : value ∈ sortedItems items) : ∃ source : Value, value = source.sorted := by
  induction items with
  | nil => simp [sortedItems] at inside
  | cons item rest ih =>
      rcases List.mem_cons.mp inside with rfl | further
      · exact ⟨item, rfl⟩
      · exact ih further

/-- The values of sorted members are sorted. -/
theorem sorted_of_mem_members {members : List (String × Value)} {member : String × Value}
    (inside : member ∈ sortedMembers members) : ∃ source : Value, member.2 = source.sorted := by
  induction members with
  | nil => simp [sortedMembers] at inside
  | cons other rest ih =>
      rcases mem_putNew inside with rfl | further
      · exact ⟨other.2, rfl⟩
      · exact ih further

/-- Below a sorted value everything is sorted. -/
theorem sorted_of_reaches {value target : Value} {position : Position}
    (goes : value.sorted.Reaches position target) : ∃ source : Value, target = source.sorted := by
  generalize same : value.sorted = node at goes
  induction goes generalizing value with
  | here => exact ⟨value, same.symm⟩
  | child leads _ ih =>
      subst same
      have inside := List.mem_map_of_mem (f := Prod.snd) leads
      rw [map_snd_edges] at inside
      obtain ⟨source, rfl⟩ : ∃ source : Value, _ = source.sorted := by
        cases value with
        | array items => exact sorted_of_mem_items inside
        | object members =>
            obtain ⟨member, among, rfl⟩ := List.mem_map.mp inside
            exact sorted_of_mem_members among
        | _ => simp [sorted, children] at inside
      exact ih rfl

/-- A sorted document is ordered throughout. -/
theorem ordered_sorted (value : Value) : value.sorted.Ordered := by
  intro position members goes
  obtain ⟨source, same⟩ := sorted_of_reaches goes
  cases source with
  | object unsorted =>
      rw [object.inj same]
      exact (pairwise_sortedMembers unsorted).imp Text.Utf8.bytes_lt_bytes_iff.mpr
  | _ => simp [sorted] at same

end Sorting

end Value

end Json

open Json (Value Edge Position)

/-- Every document that is read keeps its members in order. -/
theorem Format.ordered_of_read? {format : Format} {text : String} {document : Value}
    (read : format.read? text = some document) : document.Ordered := by
  have json {document : Value} (read : Json.readDocument? text = some document) :
      document.Ordered := by
    obtain ⟨value, -, rfl⟩ := Option.map_eq_some_iff.mp read
    exact value.ordered_sorted
  have yaml {document : Value}
      (read : (Yaml.Document.read? text).bind Yaml.Document.value? = some document) :
      document.Ordered := by
    obtain ⟨source, -, valued⟩ := Option.bind_eq_some_iff.mp read
    rw [Yaml.Document.value?] at valued
    split at valued
    · obtain rfl := Option.some.inj valued
      exact Value.null.ordered_sorted
    · obtain ⟨entry, -, rfl⟩ := Option.map_eq_some_iff.mp valued
      exact entry.1.ordered_sorted
  cases format with
  | json => exact json read
  | yaml => exact yaml read
  | either =>
      rw [Format.read?] at read
      cases first : Json.readDocument? text with
      | some value =>
          rw [first] at read
          exact json (first.trans read)
      | none =>
          rw [first] at read
          exact yaml read

end HostAudit
