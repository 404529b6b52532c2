import HostAudit.Proofs.Requoting
import Mathlib.Data.List.Forall2

/-
This file proves that quotes around values of keys `id` change nothing but ids in the definitions
that a document holds.
-/

namespace HostAudit

def Check.withoutId (check : Check) : Check := { check with id := "" }

def Group.withoutIds (group : Group) : Group :=
  { group with id := "", checks := group.checks.map Check.withoutId }

/-- A catalog without its id and those of its groups and checks. -/
def Catalog.withoutIds (catalog : Catalog) : Catalog :=
  { catalog with id := "", groups := catalog.groups.map Group.withoutIds }

namespace Yaml

/-- Nodes that are the same apart from quotes around values of keys `id`, or none. -/
inductive SameForm : Option Node → Option Node → Prop where
  | none : SameForm none none
  | scalar (properties : Properties) (style : Style) (text : String) :
      SameForm (some (.scalar properties style text)) (some (.scalar properties style text))
  | reference (anchor : Nat) : SameForm (some (.alias anchor)) (some (.alias anchor))
  | sequence {items again : List Node} (properties : Properties) (same : SameItems items again) :
      SameForm (some (.sequence properties items)) (some (.sequence properties again))
  | mapping {pairs again : List (Node × Node)} (properties : Properties)
      (same : SamePairs pairs again) :
      SameForm (some (.mapping properties pairs)) (some (.mapping properties again))

theorem SameNode.form {node again : Node} (same : SameNode node again) :
    SameForm (some node) (some again) := by
  cases node <;> cases again <;>
    simp only [SameNode, Node.idsQuoted, Node.scalar.injEq, Node.sequence.injEq,
      Node.mapping.injEq, Node.alias.injEq, reduceCtorEq] at same
  case scalar.scalar =>
    obtain ⟨rfl, rfl, rfl⟩ := same
    exact .scalar ..
  case sequence.sequence =>
    obtain ⟨rfl, same⟩ := same
    exact .sequence _ same
  case mapping.mapping =>
    obtain ⟨rfl, same⟩ := same
    exact .mapping _ same
  case alias.alias =>
    obtain rfl := same
    exact .reference _

/-- Either both are there and the same apart from quotes around values of keys `id`, or neither. -/
def SameNode? (node? again? : Option Node) : Prop :=
  node?.map Node.idsQuoted = again?.map Node.idsQuoted

theorem SameNode?.form {node? again? : Option Node} (same : SameNode? node? again?) :
    SameForm node? again? := by
  cases node? with
  | none =>
      cases again? with
      | none => exact .none
      | some again => cases same
  | some node =>
      cases again? with
      | none => cases same
      | some again => exact SameNode.form (Option.some.inj same)

namespace Node

theorem anchor?_idsQuoted (node : Node) : node.idsQuoted.anchor? = node.anchor? := by
  cases node <;> rfl

/-- The second node is the first with its values of keys `id` in quotes, or neither bears an
anchor. -/
def Stands (node again : Node) : Prop :=
  again = node.idsQuoted ∨ node.anchor? = none ∧ again.anchor? = none

theorem inQuotes_cases (node : Node) :
    node.inQuotes = node ∨ ∃ text, node = .scalar ⟨none, none⟩ .plain text := by
  unfold inQuotes
  split
  · exact .inr ⟨_, rfl⟩
  · exact .inl rfl

mutual

theorem all_idsQuoted (node : Node) : List.Forall₂ Stands node.all node.idsQuoted.all := by
  cases node with
  | sequence properties items =>
      rw [idsQuoted, all, all]
      exact .cons (.inl (by rw [idsQuoted])) (allItems_idsQuoted items)
  | mapping properties pairs =>
      rw [idsQuoted, all, all]
      exact .cons (.inl (by rw [idsQuoted])) (allPairs_idsQuoted pairs)
  | _ => exact .cons (.inl rfl) .nil

theorem allItems_idsQuoted (items : List Node) :
    List.Forall₂ Stands (allItems items) (allItems (itemsQuoted items)) := by
  cases items with
  | nil => exact .nil
  | cons item rest =>
      rw [itemsQuoted, allItems, allItems]
      exact List.rel_append (all_idsQuoted item) (allItems_idsQuoted rest)

theorem allPairs_idsQuoted (pairs : List (Node × Node)) :
    List.Forall₂ Stands (allPairs pairs) (allPairs (pairsQuoted pairs)) := by
  match pairs with
  | [] => exact .nil
  | (key, value) :: rest =>
      have value_stands : List.Forall₂ Stands value.all
          (if isId key then inQuotes (idsQuoted value) else idsQuoted value).all := by
        split
        · obtain same | ⟨text, same⟩ := inQuotes_cases value.idsQuoted
          · rw [same]
            exact all_idsQuoted value
          · cases value with
            | scalar =>
                cases same
                exact .cons (.inr ⟨rfl, rfl⟩) .nil
            | _ => cases same
        · exact all_idsQuoted value
      rw [pairsQuoted, allPairs, allPairs]
      exact List.rel_append (List.rel_append (all_idsQuoted key) value_stands)
        (allPairs_idsQuoted rest)

end

theorem find?_stands {nodes again : List Node} (stands : List.Forall₂ Stands nodes again)
    (anchor : Nat) :
    (nodes.find? fun node => node.anchor? = some anchor).map idsQuoted =
      again.find? fun node => node.anchor? = some anchor := by
  induction stands with
  | nil => rfl
  | cons first _ ih =>
      rw [List.find?_cons, List.find?_cons]
      obtain rfl | ⟨none, noneAgain⟩ := first
      · rw [anchor?_idsQuoted]
        split
        · rfl
        · exact ih
      · simpa [none, noneAgain] using ih

end Node

namespace Document

variable {document again : Document}

theorem owner?_idsQuoted (document : Document) (anchor : Nat) :
    (document.owner? anchor).map Node.idsQuoted =
      Document.owner? ⟨document.root.map Node.idsQuoted⟩ anchor := by
  refine Node.find?_stands (List.rel_reverse ?_) anchor
  cases root : document.root with
  | none => simp [nodes, root]
  | some node => simpa [nodes, root] using node.all_idsQuoted

theorem follow?_same (documents : SameDocument document again) {node nodeAgain : Node}
    (same : SameNode node nodeAgain) :
    SameNode? (document.follow? node) (again.follow? nodeAgain) := by
  cases same.form with
  | reference anchor =>
      rw [SameNode?, follow?, follow?, owner?_idsQuoted, owner?_idsQuoted, documents]
  | scalar => exact congrArg some same
  | sequence => exact congrArg some same
  | mapping => exact congrArg some same

end Document

end Yaml

namespace Definition.Place

open Yaml

/-- Places whose documents and nodes are the same apart from quotes around values of keys `id`. -/
structure Alike (place again : Place) : Prop where
  document : SameDocument place.document again.document
  node : SameNode? place.node again.node

theorem Alike.form {place again : Place} (alike : place.Alike again) :
    SameForm place.followed? again.followed? := by
  refine SameNode?.form ?_
  obtain ⟨document, node⟩ := place
  obtain ⟨documentAgain, nodeAgain⟩ := again
  cases node with
  | none =>
      cases nodeAgain with
      | none => rfl
      | some nodeAgain => cases alike.node
  | some node =>
      cases nodeAgain with
      | none => cases alike.node
      | some nodeAgain => exact Document.follow?_same alike.document (Option.some.inj alike.node)

theorem Alike.root {document again : Document} (same : SameDocument document again) :
    Alike (root document) (root again) := ⟨same, same⟩

end Definition.Place

namespace Definition

open Readable Yaml

variable {place again : Place}

/-- Scalars are read the same, and nothing else is a scalar. -/
theorem scalars_alike (alike : place.Alike again) :
    text? again = text? place ∧ bool? again = bool? place ∧
      Readable.scalar? again = Readable.scalar? place ∧ again.isEmpty = place.isEmpty := by
  have form := alike.form
  simp only [text?, bool?, Place.plainText?, Readable.scalar?, Place.scalar?, Place.isEmpty]
  generalize place.followed? = node at form ⊢
  generalize again.followed? = nodeAgain at form ⊢
  cases form <;> exact ⟨rfl, rfl, rfl, rfl⟩

theorem optional?_alike (alike : place.Alike again) :
    optional? place = none ∨ optional? place = some none ∧ optional? again = some none ∨
      optional? place = some (some place) ∧ optional? again = some (some again) := by
  have form := alike.form
  simp only [optional?, Place.optional?]
  generalize place.followed? = node at form ⊢
  generalize again.followed? = nodeAgain at form ⊢
  cases form with
  | scalar properties style text =>
      rcases style with _ | _ | _ | _ | _
      case plain =>
        dsimp only
        split
        · split
          · exact .inr (.inl ⟨rfl, rfl⟩)
          · exact .inl rfl
        · exact .inr (.inr ⟨rfl, rfl⟩)
        · split
          · exact .inr (.inl ⟨rfl, rfl⟩)
          · exact .inr (.inr ⟨rfl, rfl⟩)
      all_goals exact .inr (.inr ⟨rfl, rfl⟩)
  | none => exact .inr (.inl ⟨rfl, rfl⟩)
  | _ => exact .inr (.inr ⟨rfl, rfl⟩)

theorem itemsQuoted_eq (items : List Yaml.Node) :
    Node.itemsQuoted items = items.map Node.idsQuoted := by
  induction items with
  | nil => rfl
  | cons item rest ih => rw [Node.itemsQuoted, ih, List.map_cons]

/-- Items of places that are alike are alike one by one. -/
theorem items?_alike (alike : place.Alike again) {items itemsAgain : List Place}
    (read : items? place = some items) (readAgain : items? again = some itemsAgain) :
    List.Forall₂ Place.Alike items itemsAgain := by
  have form := alike.form
  have empty := (scalars_alike alike).2.2.2
  simp only [items?, Place.items?, empty] at read readAgain
  generalize place.followed? = node at form read
  generalize again.followed? = nodeAgain at form readAgain
  cases form with
  | sequence properties same =>
      cases read
      cases readAgain
      rw [SameItems, itemsQuoted_eq, itemsQuoted_eq, ← List.forall₂_eq_eq_eq,
        List.forall₂_map_left_iff, List.forall₂_map_right_iff] at same
      rw [List.forall₂_map_left_iff, List.forall₂_map_right_iff]
      exact same.imp fun _ _ same => ⟨alike.document, congrArg some same⟩
  | _ =>
      simp only [Option.ite_none_right_eq_some, Option.some.injEq] at read readAgain
      obtain ⟨-, rfl⟩ := read
      obtain ⟨-, rfl⟩ := readAgain
      exact .nil

/-- Members of the same name that are alike, unless the name is `id`. -/
def AlikeMember (member again : String × Place) : Prop :=
  member.1 = again.1 ∧ (member.1 = "id" ∨ member.2.Alike again.2)

theorem keyText?_alike {document documentAgain : Document} {key keyAgain : Node}
    (documents : SameDocument document documentAgain) (keys : SameNode key keyAgain) :
    Place.keyText? documentAgain keyAgain = Place.keyText? document key := by
  have form := (Document.follow?_same documents keys).form
  simp only [Place.keyText?]
  generalize document.follow? key = node at form ⊢
  generalize documentAgain.follow? keyAgain = nodeAgain at form ⊢
  cases form <;> rfl

theorem keyText?_id {document : Document} {key : Node} (isId : key.isId = true) :
    Place.keyText? document key = some "id" := by
  unfold Node.isId at isId
  split at isId
  · rfl
  · cases isId

theorem members_alike {document documentAgain : Document} {pairs pairsAgain : List (Node × Node)}
    (documents : SameDocument document documentAgain) (same : SamePairs pairs pairsAgain)
    {members membersAgain : List (String × Place)}
    (read : (pairs.mapM fun (key, value) => (Place.keyText? document key).map fun name =>
      (name, Place.mk document (some value))) = some members)
    (readAgain : (pairsAgain.mapM fun (key, value) => (Place.keyText? documentAgain key).map
      fun name => (name, Place.mk documentAgain (some value))) = some membersAgain) :
    List.Forall₂ AlikeMember members membersAgain := by
  induction pairs generalizing pairsAgain members membersAgain with
  | nil =>
      cases pairsAgain with
      | nil =>
          cases read
          cases readAgain
          exact .nil
      | cons => cases same
  | cons pair rest ih =>
      cases pairsAgain with
      | nil => cases same
      | cons pairAgain restAgain =>
          obtain ⟨key, value⟩ := pair
          obtain ⟨keyAgain, valueAgain⟩ := pairAgain
          simp only [SamePairs, Node.pairsQuoted, List.cons.injEq, Prod.mk.injEq] at same
          obtain ⟨⟨keys, values⟩, others⟩ := same
          simp only [List.mapM_cons, Option.bind_eq_bind, Option.pure_def, Option.bind_eq_some_iff,
            Option.map_eq_some_iff, Option.some.injEq] at read readAgain
          obtain ⟨_, ⟨name, name_read, rfl⟩, more, more_read, rfl⟩ := read
          obtain ⟨_, ⟨nameAgain, nameAgain_read, rfl⟩, moreAgain, moreAgain_read, rfl⟩ := readAgain
          rw [keyText?_alike documents keys, name_read] at nameAgain_read
          cases nameAgain_read
          refine .cons ⟨rfl, ?_⟩ (ih others more_read moreAgain_read)
          have isIds : key.isId = keyAgain.isId := by
            rw [← Node.isId_idsQuoted key, keys, Node.isId_idsQuoted]
          by_cases isId : key.isId = true
          · rw [keyText?_id isId] at name_read
            cases name_read
            exact .inl rfl
          · rw [if_neg isId, if_neg (isIds ▸ isId)] at values
            exact .inr ⟨documents, congrArg some values⟩

theorem known?_alike {names : List String}
    {members membersAgain known knownAgain : List (String × Place)}
    (alike : List.Forall₂ AlikeMember members membersAgain)
    (read : known? names members = some known)
    (readAgain : known? names membersAgain = some knownAgain) :
    List.Forall₂ AlikeMember known knownAgain := by
  simp only [known?, Option.ite_none_right_eq_some, Option.some.injEq] at read readAgain
  obtain ⟨-, rfl⟩ := read
  obtain ⟨-, rfl⟩ := readAgain
  exact List.rel_filter (fun _ _ same => by simp only [same.1]) alike

theorem members?_alike (alike : place.Alike again) {names : List String}
    {members membersAgain : List (String × Place)} (read : members? names place = some members)
    (readAgain : members? names again = some membersAgain) :
    List.Forall₂ AlikeMember members membersAgain := by
  have form := alike.form
  have empty := (scalars_alike alike).2.2.2
  simp only [members?, Place.members?, empty] at read readAgain
  generalize place.followed? = node at form read
  generalize again.followed? = nodeAgain at form readAgain
  cases form with
  | mapping properties same =>
      obtain ⟨all, all_read, read⟩ := Option.bind_eq_some_iff.mp read
      obtain ⟨allAgain, allAgain_read, readAgain⟩ := Option.bind_eq_some_iff.mp readAgain
      exact known?_alike (members_alike alike.document same all_read allAgain_read) read readAgain
  | _ =>
      simp only [Option.ite_none_right_eq_some, Option.some.injEq] at read readAgain
      obtain ⟨-, rfl⟩ := read
      obtain ⟨-, rfl⟩ := readAgain
      exact .nil

theorem map_eq_map {A B : Type} {f : A → B} {items again : List A}
    (same : List.Forall₂ (fun item again => f item = f again) items again) :
    items.map f = again.map f := by
  rw [← List.forall₂_eq_eq_eq, List.forall₂_map_left_iff, List.forall₂_map_right_iff]
  exact same

/-- If there are two results, `Same` relates them. -/
def Meet {A B : Type} (Same : A → B → Prop) (first : Option A) (second : Option B) : Prop :=
  ∀ a ∈ first, ∀ b ∈ second, Same a b

namespace Meet

variable {A B C D : Type} {Same : A → B → Prop} {Then : C → D → Prop}

theorem self {Same : A → A → Prop} (same : ∀ a, Same a a) (read : Option A) :
    Meet Same read read :=
  fun a found _ again => Option.some.inj (found.symm.trans again) ▸ same a

theorem pure {a : A} {b : B} (same : Same a b) : Meet Same (Pure.pure a) (Pure.pure b) := by
  rintro _ ⟨⟩ _ ⟨⟩
  exact same

theorem any (first : Option A) (second : Option B) : Meet (fun _ _ => True) first second :=
  fun _ _ _ _ => trivial

theorem bind {first : Option A} {second : Option B} {next : A → Option C} {nextAgain : B → Option D}
    (meet : Meet Same first second) (rest : ∀ {a b}, Same a b → Meet Then (next a) (nextAgain b)) :
    Meet Then (first >>= next) (second >>= nextAgain) := by
  intro c c_read d d_read
  obtain ⟨a, a_read, c_read⟩ := Option.bind_eq_some_iff.mp c_read
  obtain ⟨b, b_read, d_read⟩ := Option.bind_eq_some_iff.mp d_read
  exact rest (meet a a_read b b_read) c c_read d d_read

/-- What is read the same need not be told apart any more. -/
theorem bindEq {first second : Option A} {next : A → Option C} {nextAgain : A → Option D}
    (meet : Meet Eq first second) (rest : ∀ a, Meet Then (next a) (nextAgain a)) :
    Meet Then (first >>= next) (second >>= nextAgain) :=
  meet.bind fun {a _} same => same ▸ rest a

theorem map {first : Option A} {second : Option B} {f : A → C} {g : B → D}
    (meet : Meet Same first second) (same : ∀ {a b}, Same a b → Then (f a) (g b)) :
    Meet Then (first.map f) (second.map g) := by
  rintro _ c_read _ d_read
  obtain ⟨a, a_read, rfl⟩ := Option.map_eq_some_iff.mp c_read
  obtain ⟨b, b_read, rfl⟩ := Option.map_eq_some_iff.mp d_read
  exact same (meet a a_read b b_read)

end Meet

/-- From places that are alike, a reader comes to results that `Same` relates. -/
def Agrees {A : Type} (Same : A → A → Prop) (read? : Place → Option A) : Prop :=
  ∀ {place again}, place.Alike again → Meet Same (read? place) (read? again)

namespace Agrees

section Parts

variable {A B : Type} {Same : A → A → Prop} {Then : B → B → Prop} {read? : Place → Option A}

theorem field {members membersAgain : List (String × Place)} {name : String} {missing : Option A}
    (agrees : Agrees Same read?) (alike : List.Forall₂ AlikeMember members membersAgain)
    (other : name ≠ "id") (unread : ∀ a, Same a a) :
    Meet Same (Definition.field members name read? missing)
      (Definition.field membersAgain name read? missing) := by
  induction alike with
  | nil => exact .self unread missing
  | @cons member memberAgain rest restAgain first _ ih =>
      rw [Definition.field, Definition.field, List.lookup_cons, List.lookup_cons, ← first.1]
      by_cases found : name = member.1
      · rw [beq_iff_eq.mpr found]
        exact agrees (first.2.resolve_left (found ▸ other))
      · rw [beq_eq_false_iff_ne.mpr found]
        exact ih

theorem optional {read : Option Place → Option B} (alike : place.Alike again)
    (missing : Meet Then (read none) (read none))
    (there : Meet Then (read (some place)) (read (some again))) :
    Meet Then (optional? place >>= read) (optional? again >>= read) := by
  obtain unread | ⟨empty, emptyAgain⟩ | ⟨written, writtenAgain⟩ := optional?_alike alike
  · simp [Meet, unread]
  · rw [empty, emptyAgain]
    exact missing
  · rw [written, writtenAgain]
    exact there

theorem mapM (agrees : Agrees Same read?) {places placesAgain : List Place}
    (alikes : List.Forall₂ Place.Alike places placesAgain) :
    Meet (List.Forall₂ Same) (places.mapM read?) (placesAgain.mapM read?) := by
  induction alikes with
  | nil => exact .pure .nil
  | cons first _ ih =>
      rw [List.mapM_cons, List.mapM_cons]
      exact (agrees first).bind fun item => ih.bind fun rest => .pure (.cons item rest)

theorem list (agrees : Agrees Same read?) : Agrees (List.Forall₂ Same) (list? read?) := by
  intro place again alike
  have items : Meet (List.Forall₂ Place.Alike) (items? place) (items? again) :=
    fun _ read _ readAgain => items?_alike alike read readAgain
  rw [list?, list?]
  exact optional alike (Meet.pure List.Forall₂.nil) (items.bind agrees.mapM)

theorem ifPresent (agrees : Agrees Eq read?) : Agrees Eq (ifPresent? read?) := by
  intro place again alike
  rw [ifPresent?, ifPresent?]
  exact optional alike (Meet.pure rfl) ((agrees alike).map (congrArg some))

end Parts

/-- What is read the same agrees. -/
theorem of_eq {A : Type} {read? : Place → Option A}
    (same : ∀ {place again : Place}, place.Alike again → read? again = read? place) :
    Agrees Eq read? := by
  intro place again alike
  rw [same alike]
  exact .self Eq.refl _

theorem text : Agrees Eq (text? (S := Place)) := of_eq fun alike => (scalars_alike alike).1

theorem bool : Agrees Eq (bool? (S := Place)) := of_eq fun alike => (scalars_alike alike).2.1

theorem scalar : Agrees Eq (scalar? (S := Place)) := of_eq fun alike => (scalars_alike alike).2.2.1

theorem scalarOrEmpty : Agrees Eq (scalarOrEmpty? (S := Place)) := by
  intro place again alike
  rw [scalarOrEmpty?, scalarOrEmpty?]
  exact optional alike (Meet.pure rfl) (scalar alike)

theorem members (names : List String) :
    Agrees (List.Forall₂ AlikeMember) (members? (S := Place) names) :=
  fun alike _ read _ readAgain => members?_alike alike read readAgain

theorem itemRequirement : Agrees Eq (itemRequirement? (S := Place)) := by
  intro place again alike
  rw [itemRequirement?, itemRequirement?]
  refine optional alike (Meet.pure rfl) ((members _ alike).bind fun alikes => ?_)
  refine .bindEq (field scalarOrEmpty alikes (by decide) fun _ => rfl) fun name => ?_
  exact .bindEq (field scalarOrEmpty alikes (by decide) fun _ => rfl) fun value => Meet.pure rfl

theorem testItem : Agrees Eq (testItem? (S := Place)) := by
  refine fun alike => (members _ alike).bind fun alikes => ?_
  refine .bindEq (field text alikes (by decide) fun _ => rfl) fun flag => ?_
  refine .bindEq (field text alikes (by decide) fun _ => rfl) fun path => ?_
  refine .bindEq (field text alikes (by decide) fun _ => rfl) fun environment => ?_
  refine .bindEq (field bool alikes (by decide) fun _ => rfl) fun present => ?_
  exact .bindEq (field itemRequirement alikes (by decide) fun _ => rfl) fun requirement =>
    Meet.pure rfl

theorem combinator : Agrees Eq (combinator? (S := Place)) :=
  fun alike => (text.ifPresent alike).map fun same => same ▸ rfl

theorem testSet : Agrees Eq (testSet? (S := Place)) := by
  refine fun alike => (members _ alike).bind fun alikes => ?_
  refine (field testItem.list alikes (by decide) fun items => ?_).bind fun same => ?_
  · exact List.forall₂_same.mpr fun _ _ => rfl
  · rw [List.forall₂_eq_eq_eq] at same
    subst same
    exact .bindEq (field combinator alikes (by decide) fun _ => rfl) fun combinator => Meet.pure rfl

theorem mark : Agrees Eq (mark? (S := Place)) :=
  fun alike => .bindEq (text.ifPresent alike) fun _ => .self Eq.refl _

theorem check : Agrees (fun check again => check.withoutId = again.withoutId)
    (check? (S := Place)) := by
  refine fun alike => (members _ alike).bind fun alikes => ?_
  refine .bind (.any _ _) fun {id idAgain} _ => ?_
  refine .bindEq (field text alikes (by decide) fun _ => rfl) fun text' => ?_
  refine .bindEq (field text alikes (by decide) fun _ => rfl) fun audit => ?_
  refine .bindEq (field text alikes (by decide) fun _ => rfl) fun auditConfig => ?_
  refine .bindEq (field text alikes (by decide) fun _ => rfl) fun auditEnvironment => ?_
  refine .bindEq (field mark alikes (by decide) fun _ => rfl) fun mark => ?_
  refine .bindEq (field testSet.ifPresent alikes (by decide) fun _ => rfl) fun tests => ?_
  refine .bindEq (field text alikes (by decide) fun _ => rfl) fun remediation => ?_
  refine .bindEq (field bool alikes (by decide) fun _ => rfl) fun scored => ?_
  refine .bindEq (field bool alikes (by decide) fun _ => rfl) fun multipleValues => ?_
  exact .bindEq (field bool alikes (by decide) fun _ => rfl) fun noEnvironmentProbe => Meet.pure rfl

theorem group : Agrees (fun group again => group.withoutIds = again.withoutIds)
    (group? (S := Place)) := by
  refine fun alike => (members _ alike).bind fun alikes => ?_
  refine .bind (.any _ _) fun {id idAgain} _ => ?_
  refine .bindEq (field text alikes (by decide) fun _ => rfl) fun text' => ?_
  refine .bindEq (field scalarOrEmpty alikes (by decide) fun _ => rfl) fun kind => ?_
  refine .bind (field check.list alikes (by decide) fun checks => ?_) fun same => Meet.pure ?_
  · exact List.forall₂_same.mpr fun _ _ => rfl
  · rw [Group.withoutIds, Group.withoutIds, map_eq_map same]

theorem catalog : Agrees (fun catalog again => catalog.withoutIds = again.withoutIds)
    (catalog? (S := Place)) := by
  refine fun alike => (members _ alike).bind fun alikes => ?_
  refine .bind (.any _ _) fun {id idAgain} _ => ?_
  refine .bindEq (field scalarOrEmpty alikes (by decide) fun _ => rfl) fun version => ?_
  refine .bindEq (field text alikes (by decide) fun _ => rfl) fun text' => ?_
  refine .bindEq (field text alikes (by decide) fun _ => rfl) fun target => ?_
  refine .bind (field group.list alikes (by decide) fun groups => ?_) fun same => Meet.pure ?_
  · exact List.forall₂_same.mpr fun _ _ => rfl
  · rw [Catalog.withoutIds, Catalog.withoutIds, map_eq_map same]

end Agrees

end Definition

end HostAudit
