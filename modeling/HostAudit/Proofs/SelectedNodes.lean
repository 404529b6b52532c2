import HostAudit.Proofs.DocumentOrder
import HostAudit.Proofs.Pieces

/-
This file says which nodes of a document a path selects: those that a chain of nodes leads to, in
which each step goes from one node to the next. A path that does not descend selects every position
once at most, in the order of the document. A template shows the nodes that are not null.
-/

namespace HostAudit

open Json (Value Edge Position)

namespace Path

/-- The place of an index in an array of so many items, which may fall outside. -/
def placed (size : Nat) (position : Int) : Int :=
  if position < 0 then size + position else position

/-- A bound of a slice, moved into an array of so many items. -/
def bounded (size : Nat) (bound : Int) : Int :=
  if bound < 0 then max 0 (size + bound) else min bound size

/-- What a selector asks of an edge of a node with so many children. -/
def Selector.Picks (size : Nat) : Selector → Edge → Prop
  | field name, .member other => other = name
  | index position, .item place => (place : Int) = placed size position
  | slice first last, .item place =>
      first.elim 0 (bounded size) ≤ place ∧ place < last.elim (size : Int) (bounded size)
  | wildcard, _ => True
  | _, _ => False

instance (size : Nat) (selector : Selector) (edge : Edge) :
    Decidable (selector.Picks size edge) :=
  match selector, edge with
  | .field name, .member other => inferInstanceAs (Decidable (other = name))
  | .index position, .item place =>
      inferInstanceAs (Decidable ((place : Int) = placed size position))
  | .slice first last, .item place =>
      inferInstanceAs (Decidable
        (first.elim 0 (bounded size) ≤ place ∧ place < last.elim (size : Int) (bounded size)))
  | .wildcard, .item _ | .wildcard, .member _ => inferInstanceAs (Decidable True)
  | .field _, .item _ | .index _, .member _ | .slice _ _, .member _ =>
      inferInstanceAs (Decidable False)

/-- The children that a selector picks, each with its edge. -/
def Selector.picked (selector : Selector) (node : Value) : List (Edge × Value) :=
  node.edges.filter (selector.Picks node.edges.length ·.1)

section Picking

variable {A : Type}

/-- The items between two places, counted from a start, are those that a part of the list holds. -/
theorem filter_zipIdx_between (items : List A) (low high start : Nat) :
    ((items.zipIdx start).filter fun entry => low ≤ entry.2 ∧ entry.2 < high).map Prod.fst =
      (items.take (high - start)).drop (low - start) := by
  induction items generalizing start with
  | nil => simp
  | cons item rest ih =>
      rw [List.zipIdx_cons, List.filter_cons]
      by_cases below : start < high
      · have further : high - start = high - (start + 1) + 1 := by omega
        rw [further, List.take_succ_cons]
        by_cases reached : low ≤ start
        · have whole : low - start = 0 := by omega
          have still : low - (start + 1) = 0 := by omega
          rw [if_pos (decide_eq_true ⟨reached, below⟩), List.map_cons, ih, whole, still]
          rfl
        · have less : low - start = low - (start + 1) + 1 := by omega
          rw [if_neg (by simp [reached]), ih, less, List.drop_succ_cons]
      · have past : high - start = 0 := by omega
        have still : high - (start + 1) = 0 := by omega
        rw [if_neg (by simp [below]), ih, past, still]
        simp

/-- The item at a place is a list of one item, or of none behind the end. -/
theorem getElem?_toList (items : List A) (place : Nat) :
    items[place]?.toList = (items.take (place + 1)).drop place := by
  induction items generalizing place with
  | nil => simp
  | cons item rest ih =>
      cases place with
      | zero => simp
      | succ place => simpa using ih place

/-- What is found under a name are the values of the members with it, as no two names are the
same. -/
theorem lookup_toList (name : String) {members : List (String × A)}
    (distinct : members.Pairwise fun first second => first.1 ≠ second.1) :
    (members.lookup name).toList = (members.filter (·.1 = name)).map Prod.snd := by
  induction members with
  | nil => rfl
  | cons member rest ih =>
      obtain ⟨other, value⟩ := member
      obtain ⟨differs, others⟩ := List.pairwise_cons.mp distinct
      by_cases same : other = name
      · have none : rest.filter (·.1 = name) = [] := by
          refine List.filter_eq_nil_iff.mpr fun next inside => ?_
          simpa [same] using Ne.symm (differs next inside)
        simp [same, none]
      · have differ : (name == other) = false := beq_false_of_ne (Ne.symm same)
        simp [List.lookup_cons, same, differ, ih others]

/-- A position is one of the list exactly if it is not before its start. -/
theorem position?_eq (position : Int) (size : Nat) :
    position? position size =
      if 0 ≤ placed size position then some (placed size position).toNat else none := by
  simp only [position?, placed]
  split_ifs <;> first | omega | rfl | (congr 1; omega)

/-- A bound that is clamped is within the list. -/
theorem clamp_eq (bound : Int) (size : Nat) : (clamp bound size : Int) = bounded size bound := by
  simp only [clamp, bounded]
  split_ifs <;> omega

/-- The items that a selector picks are those at the picked positions. -/
theorem map_snd_picked_array (selector : Selector) (items : List Value) :
    (selector.picked (.array items)).map Prod.snd =
      (items.zipIdx.filter fun entry => selector.Picks items.length (.item entry.2)).map
        Prod.fst := by
  rw [Selector.picked, Value.length_edges_array, Value.edges, List.filter_map, List.map_map]
  rfl

/-- The values that a selector picks are those under the picked names. -/
theorem map_snd_picked_object (selector : Selector) (members : List (String × Value)) :
    (selector.picked (.object members)).map Prod.snd =
      (members.filter fun member => selector.Picks members.length (.member member.1)).map
        Prod.snd := by
  rw [Selector.picked, Value.length_edges_object, Value.edges, List.filter_map, List.map_map]
  rfl

/-- An index selects the item that it picks. -/
theorem select_index (position : Int) (items : List Value) :
    (Selector.index position).select (.array items) =
      ((Selector.index position).picked (.array items)).map Prod.snd := by
  rw [map_snd_picked_array]
  rw [Selector.select, position?_eq]
  split
  · rename_i inside
    have between := filter_zipIdx_between items (placed items.length position).toNat
      ((placed items.length position).toNat + 1) 0
    rw [Nat.sub_zero, Nat.sub_zero, ← getElem?_toList] at between
    rw [Option.bind_some, ← between]
    congr 2
    funext entry
    rw [decide_eq_decide, Selector.Picks]
    omega
  · rename_i outside
    have none : (items.zipIdx.filter fun entry =>
        (Selector.index position).Picks items.length (.item entry.2)) = [] := by
      refine List.filter_eq_nil_iff.mpr fun entry _ => ?_
      rw [decide_eq_true_eq, Selector.Picks]
      omega
    rw [none]
    rfl

/-- A slice selects the items that it picks. -/
theorem select_slice (first last : Option Int) (items : List Value) :
    (Selector.slice first last).select (.array items) =
      ((Selector.slice first last).picked (.array items)).map Prod.snd := by
  rw [map_snd_picked_array]
  have between := filter_zipIdx_between items ((first.map (clamp · items.length)).getD 0)
    ((last.map (clamp · items.length)).getD items.length) 0
  rw [Nat.sub_zero, Nat.sub_zero] at between
  rw [Selector.select, sliced, ← between]
  congr 2
  funext entry
  rw [decide_eq_decide, Selector.Picks]
  cases first <;> cases last <;> simp [← clamp_eq]

/-- What picks every edge picks all children. -/
theorem picked_of_all {selector : Selector} {node : Value}
    (all : ∀ edge, selector.Picks node.edges.length edge) :
    (selector.picked node).map Prod.snd = node.children := by
  have whole : selector.picked node = node.edges :=
    List.filter_eq_self.mpr fun child _ => decide_eq_true (all child.1)
  rw [whole, Value.map_snd_edges]

/-- What picks no edge picks nothing. -/
theorem picked_of_none {selector : Selector} {node : Value}
    (none : ∀ child ∈ node.edges, ¬ selector.Picks node.edges.length child.1) :
    (selector.picked node).map Prod.snd = [] := by
  have nothing : selector.picked node = [] :=
    List.filter_eq_nil_iff.mpr fun child leads => by simpa using none child leads
  rw [nothing, List.map_nil]

/-- In an ordered document a selector takes the children that it picks. -/
theorem Selector.select_eq (selector : Selector) {node : Value} (ordered : node.Ordered) :
    selector.select node = (selector.picked node).map Prod.snd := by
  cases selector with
  | wildcard => exact (picked_of_all fun edge => by cases edge <;> trivial).symm
  | field name =>
      cases node with
      | object members =>
          have distinct : members.Pairwise fun first second => first.1 ≠ second.1 :=
            (ordered [] members (.here _)).imp fun less same =>
              absurd (same ▸ less) (List.lt_irrefl _)
          rw [map_snd_picked_object]
          exact lookup_toList name distinct
      | array items =>
          refine (picked_of_none fun child leads => ?_).symm
          obtain ⟨entry, -, rfl⟩ := List.mem_map.mp leads
          exact not_false
      | _ => rfl
  | index position =>
      cases node with
      | array items => exact select_index position items
      | object members =>
          refine (picked_of_none fun child leads => ?_).symm
          obtain ⟨member, -, rfl⟩ := List.mem_map.mp leads
          exact not_false
      | _ => rfl
  | slice first last =>
      cases node with
      | array items => exact select_slice first last items
      | object members =>
          refine (picked_of_none fun child leads => ?_).symm
          obtain ⟨member, -, rfl⟩ := List.mem_map.mp leads
          exact not_false
      | _ => rfl

end Picking

/-- A step leads from a node to a child that its selector picks, or to such a child of any node
below. -/
inductive Step.Leads : Step → Value → Position → Value → Prop
  | child {selector : Selector} {node target : Value} {edge : Edge}
      (leads : (edge, target) ∈ node.edges) (picks : selector.Picks node.edges.length edge) :
      Leads (.child selector) node [edge] target
  | descend {selector : Selector} {node inner target : Value} {above : Position} {edge : Edge}
      (goes : node.Reaches above inner) (leads : (edge, target) ∈ inner.edges)
      (picks : selector.Picks inner.edges.length edge) :
      Leads (.descend selector) node (above ++ [edge]) target

/-- A chain of nodes, in which each step leads from one node to the next. The position is that of
the last node below the first. -/
inductive Chain : List Step → Value → Position → Value → Prop
  | done (node : Value) : Chain [] node [] node
  | step {step : Step} {steps : List Step} {node next target : Value} {above below : Position}
      (leads : step.Leads node above next) (chain : Chain steps next below target) :
      Chain (step :: steps) node (above ++ below) target

/-- The nodes of a stack and all below them, each with its position. -/
def positionedFrom : List (Position × Value) → List (Position × Value)
  | [] => []
  | (position, node) :: stack =>
      (position, node) ::
        positionedFrom (node.edges.map (fun (edge, next) => (position ++ [edge], next)) ++ stack)
termination_by stack => Integer.total ((stack.map Prod.snd).map Value.size)
decreasing_by
  have := Value.total_children node
  rw [← Value.map_snd_edges] at this
  simp only [List.map_append, List.map_map, Integer.total_append, List.map_cons,
    Integer.total_cons, Function.comp_def] at this ⊢
  omega

/-- The nodes that a step leads to, each with its position. -/
def Step.located : Step → Value → List (Position × Value)
  | child selector, node => (selector.picked node).map fun (edge, target) => ([edge], target)
  | descend selector, node =>
      (positionedFrom [([], node)]).flatMap fun (above, inner) =>
        (selector.picked inner).map fun (edge, target) => (above ++ [edge], target)

/-- The nodes that steps lead to from a node, each with its position. -/
def located : List Step → Value → List (Position × Value)
  | [], node => [([], node)]
  | step :: steps, node =>
      (step.located node).flatMap fun (above, next) =>
        (located steps next).map fun (below, target) => (above ++ below, target)

section Locating

variable {node target : Value} {position : Position} {steps : List Step}

/-- Without positions, the nodes from a stack are those of the descent. -/
theorem map_snd_positionedFrom (stack : List (Position × Value)) :
    (positionedFrom stack).map Prod.snd = nodesFrom (stack.map Prod.snd) := by
  fun_induction positionedFrom stack with
  | case1 => simp [nodesFrom]
  | case2 position node stack ih =>
      rw [List.map_cons, ih, List.map_cons, nodesFrom, ← Value.map_snd_edges]
      simp [Function.comp_def]

/-- From a stack exactly those nodes are gone to that an entry of it reaches. -/
theorem mem_positionedFrom {stack : List (Position × Value)} :
    (position, target) ∈ positionedFrom stack ↔
      ∃ entry ∈ stack, ∃ below, position = entry.1 ++ below ∧ entry.2.Reaches below target := by
  fun_induction positionedFrom stack with
  | case1 => simp
  | case2 above node stack ih =>
      rw [List.mem_cons, ih]
      constructor
      · rintro (here | ⟨entry, inside, below, rfl, goes⟩)
        · obtain ⟨rfl, rfl⟩ := Prod.mk.inj here
          exact ⟨_, List.mem_cons_self, [], by simp, .here _⟩
        · rcases List.mem_append.mp inside with under | beside
          · obtain ⟨⟨edge, next⟩, leads, rfl⟩ := List.mem_map.mp under
            exact ⟨_, List.mem_cons_self, edge :: below, by simp, .child leads goes⟩
          · exact ⟨entry, List.mem_cons_of_mem _ beside, below, rfl, goes⟩
      · rintro ⟨entry, inside, below, rfl, goes⟩
        rcases List.mem_cons.mp inside with rfl | beside
        · cases goes with
          | here => simp
          | @child _ next _ edge below leads goes =>
              refine .inr ⟨(above ++ [edge], next), ?_, below, by simp, goes⟩
              exact List.mem_append_left _ (List.mem_map_of_mem (f := fun child =>
                (above ++ [child.1], child.2)) leads)
        · exact .inr ⟨entry, List.mem_append_right _ beside, below, rfl, goes⟩

/-- What is picked are the edges that the selector picks. -/
theorem mem_picked {selector : Selector} {edge : Edge} :
    (edge, target) ∈ selector.picked node ↔
      (edge, target) ∈ node.edges ∧ selector.Picks node.edges.length edge := by
  simp [Selector.picked]

/-- A step finds the nodes that it leads to, each at its position. -/
theorem Step.mem_located {step : Step} :
    (position, target) ∈ step.located node ↔ step.Leads node position target := by
  constructor
  · intro inside
    cases step with
    | child selector =>
        obtain ⟨⟨edge, next⟩, picked, same⟩ := List.mem_map.mp inside
        obtain ⟨rfl, rfl⟩ := Prod.mk.inj same
        obtain ⟨leads, picks⟩ := mem_picked.mp picked
        exact .child leads picks
    | descend selector =>
        obtain ⟨⟨above, inner⟩, among, further⟩ := List.mem_flatMap.mp inside
        obtain ⟨⟨edge, next⟩, picked, same⟩ := List.mem_map.mp further
        obtain ⟨rfl, rfl⟩ := Prod.mk.inj same
        obtain ⟨leads, picks⟩ := mem_picked.mp picked
        obtain ⟨entry, start, below, rfl, goes⟩ := mem_positionedFrom.mp among
        obtain rfl := List.mem_singleton.mp start
        exact .descend goes leads picks
  · intro leads
    cases leads with
    | child leads picks =>
        exact List.mem_map.mpr ⟨_, mem_picked.mpr ⟨leads, picks⟩, rfl⟩
    | descend goes leads picks =>
        have among := mem_positionedFrom.mpr ⟨_, List.mem_singleton_self ([], node), _, rfl, goes⟩
        exact List.mem_flatMap.mpr
          ⟨_, among, List.mem_map.mpr ⟨_, mem_picked.mpr ⟨leads, picks⟩, rfl⟩⟩

/-- A step leads to nodes that can be reached. -/
theorem Step.Leads.reaches {step : Step} (leads : step.Leads node position target) :
    node.Reaches position target := by
  cases leads with
  | child leads _ => exact .child leads (.here _)
  | descend goes leads _ => exact goes.append (.child leads (.here _))

/-- In an ordered document a step selects the nodes that it leads to. -/
theorem Step.map_snd_located (step : Step) (ordered : node.Ordered) :
    (step.located node).map Prod.snd = step.select node := by
  cases step with
  | child selector =>
      rw [located, select, selector.select_eq ordered, List.map_map]
      rfl
  | descend selector =>
      have nodes : (positionedFrom [([], node)]).map Prod.snd = nodesFrom [node] :=
        map_snd_positionedFrom _
      rw [located, select, ← nodes, List.map_flatMap, List.flatMap_map]
      refine List.flatMap_congr fun ⟨above, inner⟩ among => ?_
      obtain ⟨entry, start, below, -, goes⟩ := mem_positionedFrom.mp among
      obtain rfl := List.mem_singleton.mp start
      rw [selector.select_eq (ordered.reached goes), List.map_map]
      rfl

/-- The steps are taken from each node by itself. -/
theorem select_eq_flatMap (steps : List Step) (nodes : List Value) :
    select steps nodes = nodes.flatMap fun node => select steps [node] := by
  induction steps generalizing nodes with
  | nil => simp [select]
  | cons step steps ih =>
      calc select (step :: steps) nodes
          = (nodes.flatMap step.select).flatMap fun node => select steps [node] := ih _
        _ = nodes.flatMap fun node => (step.select node).flatMap fun node => select steps [node] :=
            List.flatMap_assoc
        _ = nodes.flatMap fun node => select (step :: steps) [node] := by
            refine List.flatMap_congr fun node _ => ?_
            rw [← ih]
            simp [select]

/-- In an ordered document steps select the nodes that they lead to. -/
theorem map_snd_located (steps : List Step) (ordered : node.Ordered) :
    (located steps node).map Prod.snd = select steps [node] := by
  induction steps generalizing node with
  | nil => rfl
  | cons step steps ih =>
      have first : select (step :: steps) [node] = select steps (step.select node) := by
        simp [select]
      rw [first, select_eq_flatMap, ← step.map_snd_located ordered, located, List.map_flatMap,
        List.flatMap_map]
      refine List.flatMap_congr fun ⟨above, next⟩ inside => ?_
      rw [← ih (ordered.reached (Step.mem_located.mp inside).reaches), List.map_map]
      rfl

/-- Steps lead to a node exactly if there is a chain to it. -/
theorem mem_located :
    (position, target) ∈ located steps node ↔ Chain steps node position target := by
  induction steps generalizing node position with
  | nil =>
      rw [located, List.mem_singleton]
      constructor
      · rintro ⟨rfl, rfl⟩
        exact .done _
      · intro chain
        cases chain
        rfl
  | cons step steps ih =>
      constructor
      · intro inside
        obtain ⟨⟨above, next⟩, first, further⟩ := List.mem_flatMap.mp inside
        obtain ⟨⟨below, last⟩, rest, same⟩ := List.mem_map.mp further
        obtain ⟨rfl, rfl⟩ := Prod.mk.inj same
        exact .step (Step.mem_located.mp first) (ih.mp rest)
      · intro chain
        cases chain with
        | step leads chain =>
            exact List.mem_flatMap.mpr ⟨_, Step.mem_located.mpr leads,
              List.mem_map.mpr ⟨_, ih.mpr chain, rfl⟩⟩

/-- A step that goes from a node to its children only. -/
def Step.stays : Step → Bool
  | child _ => true
  | descend _ => false

/-- A step to children finds them in the order of the document. -/
theorem Step.pairwise_located {step : Step} (stays : step.stays = true) (ordered : node.Ordered) :
    (step.located node).Pairwise fun first second =>
      ∃ before after, first.1 = [before] ∧ second.1 = [after] ∧ before.Precedes after := by
  cases step with
  | descend selector => simp [Step.stays] at stays
  | child selector =>
      rw [located, List.pairwise_map]
      exact (ordered.pairwise_edges.filter _).imp fun precedes => ⟨_, _, rfl, rfl, precedes⟩

/-- Without descending, nodes are led to in the order of the document. -/
theorem pairwise_located (stay : ∀ step ∈ steps, step.stays = true) (ordered : node.Ordered) :
    (located steps node).Pairwise fun first second => first.1.Precedes second.1 := by
  induction steps generalizing node with
  | nil => exact List.pairwise_singleton _ _
  | cons step steps ih =>
      obtain ⟨stays, others⟩ := List.forall_mem_cons.mp stay
      have order := step.pairwise_located stays ordered
      rw [located, List.pairwise_flatMap]
      constructor
      · rintro ⟨above, next⟩ inside
        rw [List.pairwise_map]
        exact (ih others (ordered.reached (Step.mem_located.mp inside).reaches)).imp fun precedes =>
          List.Lex.append_left _ precedes _
      · refine order.imp ?_
        rintro ⟨first, node⟩ ⟨second, other⟩ ⟨before, after, rfl, rfl, precedes⟩ _ below _ beside
        obtain ⟨entry, -, rfl⟩ := List.mem_map.mp below
        obtain ⟨other, -, rfl⟩ := List.mem_map.mp beside
        exact .rel precedes

end Locating

section Showing

/-- Joining is that of the library. -/
theorem joined_eq_intercalate (separator : String) (texts : List String) :
    Text.joined separator texts = separator.intercalate texts := by
  induction texts with
  | nil => rw [Text.joined, String.intercalate_nil]
  | cons text rest ih =>
      cases rest with
      | nil => rw [Text.joined, String.intercalate_singleton]
      | cons next others =>
          rw [String.intercalate_cons_cons, ← ih]
          rfl

/-- The text that a node is shown as: a text as it is, and all else as it is written. -/
def shown : Value → String
  | .text content => content
  | node => node.compact

def isNull : Value → Bool
  | .null => true
  | _ => false

/-- The nodes that are written are those that are not null. -/
theorem filterMap_written? (nodes : List Value) :
    nodes.filterMap written? = (nodes.filter (!isNull ·)).map shown := by
  induction nodes with
  | nil => rfl
  | cons node rest ih =>
      rw [List.filterMap_cons, List.filter_cons, ih]
      cases node <;> rfl

/-- The nodes that a segment shows: those that it leads to, but for nulls. -/
def Segment.nodes (document : Value) : Segment → List Value
  | .text _ => []
  | .expression steps => ((located steps document).map Prod.snd).filter (!isNull ·)

/-- The text that a segment stands for: its own, or those of its nodes with spaces between them. -/
def Segment.rendering (document : Value) : Segment → String
  | .text content => content
  | .expression steps => " ".intercalate (((expression steps).nodes document).map shown)

/-- A segment renders the nodes of its expression, and counts them. -/
theorem Segment.evaluate_eq (segment : Segment) {document : Value} (ordered : document.Ordered) :
    segment.evaluate document = ⟨segment.rendering document, (segment.nodes document).length⟩ := by
  cases segment with
  | text content => rfl
  | expression steps =>
      simp only [evaluate, rendering, nodes, map_snd_located steps ordered, filterMap_written?,
        joined_eq_intercalate, List.length_map]

end Showing

/-- Every document that is read is ordered, and in an ordered document steps select the nodes at the
end of a chain. If no step descends, then every position is selected once at most, in the order of
the document. A template counts the nodes of its expressions that are not null, and shows them
between its texts. -/
theorem selection_follows_chains :
    (∀ (format : Format) (text : String) (document : Value),
      format.read? text = some document → document.Ordered) ∧
    ∀ document : Value, document.Ordered →
      (∀ steps : List Step,
        (∀ node, node ∈ select steps [document] ↔
          ∃ position, Chain steps document position node) ∧
        (∀ position node, (position, node) ∈ located steps document ↔
          Chain steps document position node) ∧
        (located steps document).map Prod.snd = select steps [document] ∧
        ((∀ step ∈ steps, step.stays = true) →
          ((located steps document).map Prod.fst).Pairwise Position.Precedes ∧
          ((located steps document).map Prod.fst).Nodup)) ∧
      ∀ template : Template,
        (template.evaluate document).count =
          Integer.total (template.segments.map fun segment => (segment.nodes document).length) ∧
        (template.evaluate document).value =
          String.join (template.segments.map (Segment.rendering document)) := by
  refine ⟨fun format text document => Format.ordered_of_read?, fun document ordered => ?_⟩
  refine ⟨?steps, ?template⟩
  case steps =>
    intro steps
    have same := map_snd_located steps ordered
    refine ⟨fun node => ?_, fun position node => mem_located, same, fun stay => ?_⟩
    · rw [← same]
      simp [mem_located]
    · have order := List.pairwise_map.mpr (pairwise_located stay ordered)
      exact ⟨order, order.imp Position.Precedes.ne⟩
  case template =>
    intro template
    have parts : template.segments.map (Segment.evaluate document) = template.segments.map
        fun segment => ⟨segment.rendering document, (segment.nodes document).length⟩ :=
      List.map_congr_left fun segment _ => segment.evaluate_eq ordered
    rw [Template.evaluate, parts, Text.joined_empty, List.map_map, List.map_map]
    exact ⟨rfl, rfl⟩

/-- Lists of owners, one of which is missing. -/
def owners : Value :=
  .object [("owners", .array [.array [.text "root", .text "etcd"], .null, .array [.text "kube"]])]

/-- The last owner of each list. -/
def lastOwners : List Step := [.child (.field "owners"), .child .wildcard, .child (.index (-1))]

/-- A path into nested lists finds the last owner of each, and passes over the missing list. -/
theorem selection_follows_chains_owners :
    Format.json.read? "\x7b\"owners\": [[\"root\", \"etcd\"], null, [\"kube\"]]\x7d" =
      some owners ∧
    owners.Ordered ∧
    Chain lastOwners owners [.member "owners", .item 0, .item 1] (.text "etcd") ∧
    (∀ step ∈ lastOwners, step.stays = true) ∧
    ((located lastOwners owners).map Prod.fst).Nodup ∧
    ((⟨"{.owners[*][-1]}", [.expression lastOwners]⟩ : Template).evaluate owners).value =
      "etcd kube" := by
  have read : Format.json.read? "\x7b\"owners\": [[\"root\", \"etcd\"], null, [\"kube\"]]\x7d" =
      some owners := by
    cbv
  have places : located lastOwners owners =
      [([.member "owners", .item 0, .item 1], .text "etcd"),
        ([.member "owners", .item 2, .item 0], .text "kube")] := rfl
  have stay : ∀ step ∈ lastOwners, step.stays = true := by decide
  obtain ⟨reads, selects⟩ := selection_follows_chains
  have ordered := reads _ _ _ read
  obtain ⟨leads, shows⟩ := selects owners ordered
  obtain ⟨-, chains, -, order⟩ := leads lastOwners
  refine ⟨read, ordered, (chains _ _).mp (by simp [places]), stay, (order stay).2, ?_⟩
  exact (shows _).2.trans rfl

end Path

end HostAudit
