import HostAudit.Proofs.SelectedNodes

/-
This file says what a descent goes through. A descent keeps the nodes that it has still to visit on
a stack, and it gives what a recursion over the document gives: what is picked at a node, and then
what a descent gives at its children, one after another. Every node is visited once, in the order of
the document.
-/

namespace HostAudit

open Json (Value Edge Position)

namespace Path

/-- Entries that have children, in order. The size of an entry counts it and all entries below. -/
structure Branching (A : Type) where
  children : A → List A
  size : A → Nat
  size_eq : ∀ entry, size entry = Integer.total ((children entry).map size) + 1

namespace Branching

variable {A B C : Type} (tree : Branching A) (pick : A → List B)

/-- What lies below an entry is smaller than the entry. -/
theorem size_lt {entry child : A} (inside : child ∈ tree.children entry) :
    tree.size child < tree.size entry := by
  obtain ⟨before, after, split⟩ := List.append_of_mem inside
  rw [tree.size_eq entry, split, List.map_append, Integer.total_append, List.map_cons,
    Integer.total_cons]
  omega

/-- What holds of an entry if it holds of its children holds of every entry. -/
theorem induct {motive : A → Prop}
    (step : ∀ entry, (∀ child ∈ tree.children entry, motive child) → motive entry) (entry : A) :
    motive entry := by
  generalize size : tree.size entry = count
  induction count using Nat.strong_induction_on generalizing entry with
  | _ count ih =>
      apply step
      intro child inside
      exact ih (tree.size child) (size ▸ tree.size_lt inside) child rfl

/-- What is picked at an entry, and then all that is picked below it, child by child. -/
def descended (entry : A) : List B :=
  pick entry ++ (tree.children entry).attach.flatMap fun child => descended child.val
termination_by tree.size entry
decreasing_by exact tree.size_lt child.property

/-- A descent looks at the entry itself and then goes below, child by child. -/
theorem descended_eq (entry : A) :
    tree.descended pick entry =
      pick entry ++ (tree.children entry).flatMap (tree.descended pick) := by
  rw [descended]
  apply congrArg (pick entry ++ ·)
  rw [← List.flatMap_map, List.attach_map_subtype_val]

/-- To pick at all entries that are visited is to pick on the way. -/
theorem flatMap_descended (further : B → List C) (entry : A) :
    (tree.descended pick entry).flatMap further =
      tree.descended (fun entry => (pick entry).flatMap further) entry := by
  induction entry using tree.induct with
  | step entry ih =>
      rw [descended_eq, descended_eq, List.flatMap_append, List.flatMap_assoc]
      apply congrArg ((pick entry).flatMap further ++ ·)
      apply List.flatMap_congr
      exact ih

end Branching

/-- A descent under way: the entries that are still to be visited, the next one last, and what has
been picked so far. -/
structure Descent (A B : Type) where
  stack : List A
  output : List B

namespace Descent

variable {A B C : Type} (tree : Branching A) (pick : A → List B)

/-- A descent begins with one entry to be visited. -/
def start (entry : A) : Descent A B := ⟨[entry], []⟩

/-- In a turn the last entry of the stack is visited. Its children take its place, the first of them
last. Without an entry the descent is at its end. -/
def turn? (descent : Descent A B) : Option (Descent A B) :=
  descent.stack.getLast?.map fun entry =>
    ⟨descent.stack.dropLast ++ (tree.children entry).reverse, descent.output ++ pick entry⟩

/-- The descent after so many turns, unless it is at its end before. -/
def after? : Nat → Descent A B → Option (Descent A B)
  | 0, descent => some descent
  | turns + 1, descent => (descent.turn? tree pick).bind (after? turns)

/-- How many visits are still to be made. -/
def left (descent : Descent A B) : Nat := Integer.total (descent.stack.map tree.size)

/-- What has been picked when the descent is at its end. -/
def result (descent : Descent A B) : List B :=
  descent.output ++ descent.stack.reverse.flatMap (tree.descended pick)

variable {tree pick} {descent next : Descent A B}

/-- A turn takes the last entry, and puts its children in its place in reverse order. -/
theorem turn?_append (rest : List A) (entry : A) (output : List B) :
    (⟨rest ++ [entry], output⟩ : Descent A B).turn? tree pick =
      some ⟨rest ++ (tree.children entry).reverse, output ++ pick entry⟩ := by
  simp [turn?]

/-- Only an empty stack has no turn. -/
theorem turn?_eq_none_iff : descent.turn? tree pick = none ↔ descent.stack = [] := by
  rw [turn?, Option.map_eq_none_iff, List.getLast?_eq_none_iff]

/-- A turn visits one entry. -/
theorem turn?_eq_some_iff :
    descent.turn? tree pick = some next ↔
      ∃ rest entry, descent.stack = rest ++ [entry] ∧
        next = ⟨rest ++ (tree.children entry).reverse, descent.output ++ pick entry⟩ := by
  constructor
  · intro turned
    obtain ⟨entry, last, rfl⟩ := Option.map_eq_some_iff.mp turned
    exact ⟨descent.stack.dropLast, entry, (List.dropLast_append_getLast? entry last).symm, rfl⟩
  · rintro ⟨rest, entry, split, rfl⟩
    obtain ⟨stack, output⟩ := descent
    obtain rfl := split
    exact turn?_append rest entry output

/-- Every turn makes one of the visits that are left. -/
theorem left_turn? (turned : descent.turn? tree pick = some next) :
    descent.left tree = next.left tree + 1 := by
  obtain ⟨rest, entry, split, rfl⟩ := turn?_eq_some_iff.mp turned
  have reversed : Integer.total ((tree.children entry).reverse.map tree.size) =
      Integer.total ((tree.children entry).map tree.size) := by
    rw [List.map_reverse]
    exact List.sum_reverse _
  simp only [left, split, List.map_append, Integer.total_append, reversed, List.map_cons,
    List.map_nil, Integer.total_cons, Integer.total_nil, tree.size_eq entry]
  omega

/-- A turn does not change what the descent comes to in the end. -/
theorem result_turn? (turned : descent.turn? tree pick = some next) :
    next.result tree pick = descent.result tree pick := by
  obtain ⟨rest, entry, split, rfl⟩ := turn?_eq_some_iff.mp turned
  simp only [result, split, List.reverse_append, List.reverse_reverse, List.reverse_cons,
    List.reverse_nil, List.nil_append, List.flatMap_append, List.flatMap_cons, List.append_assoc,
    tree.descended_eq pick entry, List.flatMap_nil, List.append_nil]

variable (tree pick)

/-- A descent comes to its end when all visits have been made. -/
theorem after?_left (descent : Descent A B) :
    descent.after? tree pick (descent.left tree) = some ⟨[], descent.result tree pick⟩ := by
  -- A turn makes one of the visits that are left, and keeps the result.
  generalize remaining : descent.left tree = turns
  induction turns generalizing descent with
  | zero =>
      have none : descent.turn? tree pick = none := by
        cases turned : descent.turn? tree pick with
        | none => rfl
        | some next =>
            have fewer := left_turn? turned
            omega
      obtain ⟨stack, output⟩ := descent
      obtain rfl : stack = [] := turn?_eq_none_iff.mp none
      simp [after?, result]
  | succ turns ih =>
      cases turned : descent.turn? tree pick with
      | none =>
          have empty := turn?_eq_none_iff.mp turned
          simp [left, empty] at remaining
      | some next =>
          have fewer := left_turn? turned
          rw [after?, turned, Option.bind_some, ih next (by omega), result_turn? turned]

/-- The loop ends after as many turns as there are nodes, with what the recursion gives. -/
theorem after?_start (entry : A) :
    (start entry).after? tree pick (tree.size entry) = some ⟨[], tree.descended pick entry⟩ := by
  have ends := after?_left tree pick (start entry)
  simpa [left, result, start] using ends

end Descent

/-- The nodes of a document. -/
def documentTree : Branching Value where
  children := Value.children
  size := Value.size
  size_eq node := (Value.total_children node).symm

/-- The nodes of a document, each with its position. -/
def positionedTree : Branching (Position × Value) where
  children entry := entry.2.edges.map fun child => (entry.1 ++ [child.1], child.2)
  size entry := entry.2.size
  size_eq entry := by
    rw [← Value.total_children entry.2, ← Value.map_snd_edges, List.map_map, List.map_map]
    rfl

/-- The visits of a descent, in the order in which they are made, each with the position of the node
that is visited. -/
def visits (node : Value) : List (Position × Value) :=
  positionedTree.descended (fun entry => [entry]) ([], node)

section Stacks

variable {B : Type} {pick : Value → List B}

/-- The nodes below those of a stack are those of a descent from each of them. -/
theorem nodesFrom_eq (stack : List Value) :
    nodesFrom stack = stack.flatMap (documentTree.descended fun node => [node]) := by
  fun_induction nodesFrom stack with
  | case1 => rfl
  | case2 node stack ih =>
      rw [ih, List.flatMap_append, List.flatMap_cons, documentTree.descended_eq]
      rfl

/-- The nodes with their positions are those of a descent that notes positions. -/
theorem positionedFrom_eq (stack : List (Position × Value)) :
    positionedFrom stack = stack.flatMap (positionedTree.descended fun entry => [entry]) := by
  fun_induction positionedFrom stack with
  | case1 => rfl
  | case2 position node stack ih =>
      rw [ih, List.flatMap_append, List.flatMap_cons, positionedTree.descended_eq]
      rfl

/-- The visits of a document begin at its root. -/
theorem visits_eq (node : Value) : visits node = positionedFrom [([], node)] := by
  rw [positionedFrom_eq, List.flatMap_singleton, visits]

/-- A step that descends gives what its selector picks at a node, and then what it gives at the
children. -/
theorem select_descend (selector : Selector) (node : Value) :
    (Step.descend selector).select node = documentTree.descended selector.select node := by
  rw [Step.select, nodesFrom_eq, List.flatMap_singleton, documentTree.flatMap_descended]
  apply congrArg (documentTree.descended · node)
  funext inner
  exact List.flatMap_singleton _ _

/-- A descent that notes its visits, without the positions: it picks at the nodes that it visits. -/
def Descent.unpositioned (pick : Value → List B)
    (descent : Descent (Position × Value) (Position × Value)) : Descent Value B :=
  ⟨descent.stack.map Prod.snd, descent.output.flatMap fun visit => pick visit.2⟩

/-- A turn that notes positions is a turn of the same descent once they are taken away. -/
theorem turn?_unpositioned (descent : Descent (Position × Value) (Position × Value)) :
    (descent.unpositioned pick).turn? documentTree pick =
      (descent.turn? positionedTree fun entry => [entry]).map (Descent.unpositioned pick) := by
  obtain ⟨stack, output⟩ := descent
  rcases List.eq_nil_or_concat stack with rfl | ⟨rest, entry, rfl⟩
  · rfl
  · have children : (positionedTree.children entry).map Prod.snd = entry.2.children := by
      rw [← Value.map_snd_edges, positionedTree, List.map_map]
      rfl
    rw [List.concat_eq_append, Descent.turn?_append, Option.map_some, Descent.unpositioned,
      Descent.unpositioned, List.map_append, List.map_singleton, Descent.turn?_append,
      List.map_append, List.map_reverse, children, List.flatMap_append, List.flatMap_singleton]
    rfl

/-- The positions do not change what a descent does. -/
theorem after?_unpositioned (turns : Nat)
    (descent : Descent (Position × Value) (Position × Value)) :
    (descent.unpositioned pick).after? documentTree pick turns =
      (descent.after? positionedTree (fun entry => [entry]) turns).map
        (Descent.unpositioned pick) := by
  induction turns generalizing descent with
  | zero => rfl
  | succ turns ih =>
      rw [Descent.after?, Descent.after?, turn?_unpositioned]
      cases descent.turn? positionedTree fun entry => [entry] with
      | none => rfl
      | some next => exact ih next

end Stacks

section Visiting

variable {node target : Value} {above below under position : Position} {edge first second : Edge}

/-- A node comes before all that lies below it. -/
theorem precedes_below : Position.Precedes above (above ++ [edge] ++ below) := by
  have lower : Position.Precedes (above ++ []) (above ++ edge :: below) :=
    List.Lex.append_left _ List.Lex.nil above
  simpa using lower

/-- What lies below a node comes before what lies below one beside it. -/
theorem precedes_beside (precedes : first.Precedes second) :
    Position.Precedes (above ++ [first] ++ below) (above ++ [second] ++ under) := by
  rw [List.append_assoc, List.append_assoc]
  exact List.Lex.append_left _ (.rel precedes) above

/-- A descent notes a node under each position at which it is reached. -/
theorem mem_descended_positioned :
    (position, target) ∈ positionedTree.descended (fun entry => [entry]) (above, node) ↔
      ∃ below, position = above ++ below ∧ node.Reaches below target := by
  have reached : (position, target) ∈ positionedFrom [(above, node)] ↔ _ := mem_positionedFrom
  simpa [positionedFrom_eq] using reached

/-- Exactly the nodes that are reached are visited. -/
theorem mem_visits : (position, target) ∈ visits node ↔ node.Reaches position target := by
  rw [visits, mem_descended_positioned]
  simp

/-- A descent visits a node before all below it, and what is below a child before what is below a
later child. -/
theorem pairwise_descended_positioned (entry : Position × Value) (ordered : entry.2.Ordered) :
    (positionedTree.descended (fun entry => [entry]) entry).Pairwise
      fun first second => first.1.Precedes second.1 := by
  induction entry using positionedTree.induct with
  | step entry ih =>
      obtain ⟨above, node⟩ := entry
      rw [positionedTree.descended_eq, List.singleton_append, List.pairwise_cons,
        List.pairwise_flatMap]
      -- The node, those below one child, and those below two children.
      refine ⟨?lower, ?each, ?apart⟩
      case lower =>
        rintro ⟨position, target⟩ inside
        obtain ⟨child, among, visited⟩ := List.mem_flatMap.mp inside
        obtain ⟨⟨edge, next⟩, -, rfl⟩ := List.mem_map.mp among
        obtain ⟨below, rfl, -⟩ := mem_descended_positioned.mp visited
        exact precedes_below
      case each =>
        intro child among
        obtain ⟨⟨edge, next⟩, leads, rfl⟩ := List.mem_map.mp among
        exact ih _ among (ordered.child leads)
      case apart =>
        show (node.edges.map _).Pairwise _
        rw [List.pairwise_map]
        apply ordered.pairwise_edges.imp
        rintro ⟨before, first⟩ ⟨after, second⟩ precedes ⟨position, target⟩ visited
          ⟨other, beside⟩ later
        obtain ⟨below, rfl, -⟩ := mem_descended_positioned.mp visited
        obtain ⟨under, rfl, -⟩ := mem_descended_positioned.mp later
        exact precedes_beside precedes

/-- The nodes of an ordered document are visited in the order of their positions. -/
theorem pairwise_visits (ordered : node.Ordered) :
    ((visits node).map Prod.fst).Pairwise Position.Precedes :=
  List.pairwise_map.mpr (pairwise_descended_positioned ([], node) ordered)

/-- A step that descends selects no position twice. -/
theorem nodup_located_descend (selector : Selector) (ordered : node.Ordered) :
    (((Step.descend selector).located node).map Prod.fst).Nodup := by
  rw [Step.located, ← visits_eq, List.Nodup, List.pairwise_map, List.pairwise_flatMap]
  constructor
  · rintro ⟨above, inner⟩ visited
    rw [List.pairwise_map]
    have inside : inner.Ordered := ordered.reached (mem_visits.mp visited)
    apply (inside.pairwise_edges.filter _).imp
    intro first second precedes same
    exact precedes.ne (List.singleton_inj.mp (List.append_cancel_left same))
  · apply (List.pairwise_map.mp (pairwise_visits ordered)).imp
    rintro ⟨above, first⟩ ⟨other, second⟩ precedes entry picked beside further same
    obtain ⟨child, -, rfl⟩ := List.mem_map.mp picked
    obtain ⟨next, -, rfl⟩ := List.mem_map.mp further
    exact precedes.ne (List.append_inj_left' same rfl)

/-- A node below another is a child of a node. -/
theorem exists_parent (reaches : node.Reaches position target) (lower : position ≠ []) :
    ∃ above edge inner, position = above ++ [edge] ∧ node.Reaches above inner ∧
      (edge, target) ∈ inner.edges := by
  induction reaches with
  | here => exact absurd rfl lower
  | @child node next target edge below leads goes ih =>
      by_cases direct : below = []
      · obtain rfl := direct
        cases goes
        exact ⟨[], edge, node, rfl, .here node, leads⟩
      · obtain ⟨above, last, inner, rfl, reached, under⟩ := ih direct
        exact ⟨edge :: above, last, inner, rfl, .child leads reached, under⟩

/-- Descending to all children selects the nodes below. -/
theorem mem_located_everything :
    (position, target) ∈ (Step.descend .wildcard).located node ↔
      position ≠ [] ∧ node.Reaches position target := by
  rw [Step.mem_located]
  constructor
  · intro leads
    refine ⟨?_, leads.reaches⟩
    cases leads with
    | descend goes leads picks => simp
  · rintro ⟨lower, reaches⟩
    obtain ⟨above, edge, inner, rfl, goes, leads⟩ := exists_parent reaches lower
    exact .descend goes leads (by cases edge <;> trivial)

end Visiting

/-- A descent with a stack is a recursion over the document, whatever it picks at a node. It ends
after as many turns as there are nodes, and a step that descends selects what it gives. A descent
that notes its visits with their positions takes the same turns, and visits exactly the nodes of the
document. In an ordered document it visits them in the order of the document, every position once,
and descending to all children selects every position below the node once. -/
theorem descent_visits_in_order :
    (∀ (pick : Value → List Value) (node : Value),
      (Descent.start node).after? documentTree pick node.size =
        some ⟨[], documentTree.descended pick node⟩ ∧
      documentTree.descended pick node =
        pick node ++ node.children.flatMap (documentTree.descended pick)) ∧
    (∀ (selector : Selector) (node : Value),
      (Step.descend selector).select node = documentTree.descended selector.select node) ∧
    (∀ node : Value,
      (Descent.start ([], node)).after? positionedTree (fun entry => [entry]) node.size =
        some ⟨[], visits node⟩ ∧
      (∀ (pick : Value → List Value) (turns : Nat),
        (Descent.start node).after? documentTree pick turns =
          ((Descent.start ([], node)).after? positionedTree (fun entry => [entry]) turns).map
            (Descent.unpositioned pick)) ∧
      (visits node).map Prod.snd = nodesFrom [node] ∧
      ∀ position target, (position, target) ∈ visits node ↔ node.Reaches position target) ∧
    ∀ node : Value, node.Ordered →
      (node.edges.map Prod.snd = node.children ∧
        node.edges.Pairwise fun first second => first.1.Precedes second.1) ∧
      (((visits node).map Prod.fst).Pairwise Position.Precedes ∧
        ((visits node).map Prod.fst).Nodup) ∧
      ((Step.descend .wildcard).located node).map Prod.snd =
        (Step.descend .wildcard).select node ∧
      (((Step.descend .wildcard).located node).map Prod.fst).Nodup ∧
      ∀ position target, (position, target) ∈ (Step.descend .wildcard).located node ↔
        position ≠ [] ∧ node.Reaches position target := by
  refine ⟨fun pick node => ?recursion, select_descend, fun node => ?visited, ?ordered⟩
  case recursion =>
    exact ⟨Descent.after?_start documentTree pick node, documentTree.descended_eq pick node⟩
  case visited =>
    refine ⟨Descent.after?_start positionedTree _ ([], node), fun pick turns => ?_, ?_,
      fun position target => mem_visits⟩
    · exact after?_unpositioned turns (Descent.start ([], node))
    · rw [visits_eq]
      exact map_snd_positionedFrom _
  case ordered =>
    intro node ordered
    have order := pairwise_visits ordered
    exact ⟨⟨node.map_snd_edges, ordered.pairwise_edges⟩, ⟨order, order.imp Position.Precedes.ne⟩,
      Step.map_snd_located _ ordered, nodup_located_descend .wildcard ordered,
      fun position target => mem_located_everything⟩

/-- A document with nodes at two depths. -/
def nested : Value := .object [("a", .text "x"), ("b", .array [.text "y"])]

theorem descent_visits_in_order_nested :
    Format.json.read? "\x7b\"b\":[\"y\"],\"a\":\"x\"\x7d" = some nested ∧
    nested.Ordered ∧
    (Step.descend .wildcard).select nested = [.text "x", .array [.text "y"], .text "y"] ∧
    ([Edge.member "b", .item 0], Value.text "y") ∈ visits nested ∧
    ((visits nested).map Prod.fst).Nodup := by
  have read : Format.json.read? "\x7b\"b\":[\"y\"],\"a\":\"x\"\x7d" = some nested := by cbv
  have ordered := Format.ordered_of_read? read
  have inside : (Edge.member "b", Value.array [.text "y"]) ∈ nested.edges := by
    simp [nested, Value.edges]
  have goes : nested.Reaches [.member "b", .item 0] (.text "y") :=
    .child inside (.child (List.mem_singleton_self _) (.here _))
  obtain ⟨recursion, selects, visited, inOrder⟩ := descent_visits_in_order
  refine ⟨read, ordered, ?_, ((visited nested).2.2.2 _ _).mpr goes, (inOrder nested ordered).2.1.2⟩
  rw [selects]
  simp [(recursion _ _).2, nested, Value.children, Selector.select]

end Path

end HostAudit
