import HostAudit.Definition.Reader

/-
This file proves what becomes of a document when plain values of keys `id` are put between quotes:
it holds the same nodes, apart from these values.
-/

namespace HostAudit.Yaml

/-- The second tokens are the first, with some plain values of keys `id` put between quotes. -/
inductive Requoted : List Token → List Token → Prop where
  | nil : Requoted [] []
  | same {tokens quoted : List Token} (token : Token) (rest : Requoted tokens quoted) :
      Requoted (token :: tokens) (token :: quoted)
  | id {tokens quoted : List Token} (text : String) (rest : Requoted tokens quoted) :
      Requoted (.key :: .scalar .plain "id" :: .value :: .scalar .plain text :: tokens)
        (.key :: .scalar .plain "id" :: .value :: .scalar .doubleQuoted text :: quoted)

namespace Requoted

variable {tokens quoted : List Token}

theorem refl (tokens : List Token) : Requoted tokens tokens := by
  induction tokens with
  | nil => exact .nil
  | cons token rest ih => exact .same token ih

theorem append {more moreQuoted : List Token} (requoted : Requoted tokens quoted)
    (rest : Requoted more moreQuoted) : Requoted (tokens ++ more) (quoted ++ moreQuoted) := by
  induction requoted with
  | nil => exact rest
  | same token _ ih => exact .same token ih
  | id text _ ih => exact .id text ih

theorem length_eq (requoted : Requoted tokens quoted) : quoted.length = tokens.length := by
  induction requoted with
  | nil => rfl
  | same token _ ih => simp [ih]
  | id text _ ih => simp [ih]

theorem head?_eq (requoted : Requoted tokens quoted) : quoted.head? = tokens.head? := by
  cases requoted <;> rfl

theorem tail (requoted : Requoted tokens quoted) (other : tokens.head? ≠ some .key) :
    Requoted tokens.tail quoted.tail := by
  cases requoted with
  | nil => exact .nil
  | same token rest => exact rest
  | id text rest => exact absurd rfl other

end Requoted

namespace Node

def isId : Node → Bool
  | .scalar _ .plain "id" => true
  | _ => false

/-- A plain scalar without properties in quotes; other nodes as they are. -/
def inQuotes : Node → Node
  | .scalar ⟨none, none⟩ .plain text => .scalar ⟨none, none⟩ .doubleQuoted text
  | other => other

mutual

/-- A node with the plain values of keys `id` put between quotes. -/
def idsQuoted : Node → Node
  | .sequence properties items => .sequence properties (itemsQuoted items)
  | .mapping properties pairs => .mapping properties (pairsQuoted pairs)
  | other => other

def itemsQuoted : List Node → List Node
  | [] => []
  | item :: rest => idsQuoted item :: itemsQuoted rest

def pairsQuoted : List (Node × Node) → List (Node × Node)
  | [] => []
  | (key, value) :: rest =>
      (idsQuoted key, if isId key then inQuotes (idsQuoted value) else idsQuoted value) ::
        pairsQuoted rest

end

theorem isId_idsQuoted (node : Node) : node.idsQuoted.isId = node.isId := by
  cases node <;> rfl

end Node

/-- From tokens that `Before` relates, two readers that succeed come to results that `Same` relates,
and leave tokens of which the second are requoted. -/
structure Links {A B : Type} (Before : List Token → List Token → Prop) (Same : A → B → Prop)
    (read : Read A) (again : Read B) : Prop where
  agree {tokens quoted anchors a rest b restQuoted} : Before tokens quoted →
    read ⟨tokens, anchors⟩ = some (a, rest) → again ⟨quoted, anchors⟩ = some (b, restQuoted) →
      Same a b ∧ Requoted rest.tokens restQuoted.tokens ∧ restQuoted.anchors = rest.anchors

/-- Tokens that begin with the same one, of which the second are requoted. -/
def Heading (head? : Option Token) (tokens quoted : List Token) : Prop :=
  Requoted tokens quoted ∧ tokens.head? = head?

/-- Tokens after the mark of a key, of which the second have a value of the key `id` requoted. -/
def WithinId (tokens quoted : List Token) : Prop :=
  Requoted (.key :: tokens) (.key :: quoted)

/-- A reader that comes from requoted tokens to a result that `Same` relates. -/
abbrev Keeps {A : Type} (Same : A → A → Prop) (read : Read A) : Prop :=
  Links Requoted Same read read

namespace Links

variable {A B C D : Type} {Before : List Token → List Token → Prop} {Same : A → B → Prop}
  {Then : C → D → Prop}

theorem pure {a : A} {b : B} (same : Same a b) :
    Links Requoted Same (Pure.pure a) (Pure.pure b) where
  agree requoted read again := by
    cases read
    cases again
    exact ⟨same, requoted, rfl⟩

theorem failure {again : Read B} : Links Before Same (Alternative.failure : Read A) again where
  agree _ read _ := by cases read

theorem mono {Earlier : List Token → List Token → Prop} {read : Read A} {again : Read B}
    (links : Links Before Same read again)
    (before : ∀ {tokens quoted}, Earlier tokens quoted → Before tokens quoted) :
    Links Earlier Same read again where
  agree earlier := links.agree (before earlier)

theorem bind {read : Read A} {again : Read B} {next : A → Read C} {nextAgain : B → Read D}
    (first : Links Before Same read again)
    (second : ∀ {a b}, Same a b → Links Requoted Then (next a) (nextAgain b)) :
    Links Before Then (read >>= next) (again >>= nextAgain) where
  agree before read_eq again_eq := by
    obtain ⟨⟨a, middle⟩, readA, readC⟩ := Option.bind_eq_some_iff.mp read_eq
    obtain ⟨⟨b, middleQuoted⟩, readB, readD⟩ := Option.bind_eq_some_iff.mp again_eq
    obtain ⟨same, requoted, anchors_eq⟩ := first.agree before readA readB
    obtain ⟨middleTokens, middleAnchors⟩ := middle
    obtain ⟨quotedTokens, quotedAnchors⟩ := middleQuoted
    cases anchors_eq
    exact (second same).agree requoted readC readD

theorem map {read : Read A} {again : Read B} {f : A → C} {g : B → D}
    (links : Links Before Same read again) (same : ∀ {a b}, Same a b → Then (f a) (g b)) :
    Links Before Then (f <$> read) (g <$> again) := by
  rw [map_eq_pure_bind, map_eq_pure_bind]
  exact links.bind fun related => pure (same related)

theorem lift (part? : Option A) : Keeps Eq (liftM part? : Read A) where
  agree requoted read again := by
    cases part? with
    | none => cases read
    | some part =>
        cases read
        cases again
        exact ⟨rfl, requoted, rfl⟩

theorem next {read : Option Token → Read A} {again : Option Token → Read B}
    (each : ∀ head?, Links (Heading head?) Same (read head?) (again head?)) :
    Links Requoted Same (next >>= read) (next >>= again) where
  agree {tokens quoted anchors a rest b restQuoted} requoted read_eq again_eq := by
    change again quoted.head? ⟨quoted, anchors⟩ = some (b, restQuoted) at again_eq
    rw [requoted.head?_eq] at again_eq
    exact (each tokens.head?).agree ⟨requoted, rfl⟩ read_eq again_eq

theorem heading {read : Read A} {again : Read B} {head? : Option Token}
    (links : Links Requoted Same read again) : Links (Heading head?) Same read again :=
  links.mono And.left

theorem advance {read : Read A} {again : Read B} {head? : Option Token} (other : head? ≠ some .key)
    (links : Links Requoted Same read again) :
    Links (Heading head?) Same (advance >>= fun _ => read) (advance >>= fun _ => again) where
  agree before read_eq again_eq := by
    obtain ⟨requoted, rfl⟩ := before
    exact links.agree (requoted.tail other) read_eq again_eq

theorem accept {read : Bool → Read A} {again : Bool → Read B} {token : Token}
    (other : token ≠ .key)
    (links : ∀ accepted, Links Requoted Same (read accepted) (again accepted)) :
    Links Requoted Same (accept token >>= read) (accept token >>= again) := by
  rw [Yaml.accept, bind_assoc, bind_assoc]
  refine next fun head? => ?_
  split
  · rename_i found
    simp only [bind_assoc, pure_bind]
    exact advance (by simpa [found] using other) (links true)
  · simp only [pure_bind]
    exact (links false).heading

theorem acceptKey {read : Bool → Read A} {again : Bool → Read B}
    (found : Links WithinId Same (read true) (again true))
    (links : Links Requoted Same (read false) (again false)) :
    Links Requoted Same (Yaml.accept .key >>= read) (Yaml.accept .key >>= again) := by
  rw [Yaml.accept, bind_assoc, bind_assoc]
  refine next fun head? => ?_
  split
  · rename_i isKey
    subst isKey
    simp only [bind_assoc, pure_bind]
    refine ⟨fun before read_eq again_eq => ?_⟩
    obtain ⟨requoted, starts⟩ := before
    obtain ⟨tokens, rfl⟩ := List.head?_eq_some_iff.mp starts
    obtain ⟨quoted, rfl⟩ := List.head?_eq_some_iff.mp (requoted.head?_eq.trans starts)
    exact found.agree requoted read_eq again_eq
  · simp only [pure_bind]
    exact links.heading

theorem withinId {read : Read A} {again : Read B} (links : Links Requoted Same read again)
    (atId : ∀ {text tokens quoted anchors a rest b restQuoted}, Requoted tokens quoted →
      read ⟨.scalar .plain "id" :: .value :: .scalar .plain text :: tokens, anchors⟩ =
        some (a, rest) →
      again ⟨.scalar .plain "id" :: .value :: .scalar .doubleQuoted text :: quoted, anchors⟩ =
        some (b, restQuoted) →
      Same a b ∧ Requoted rest.tokens restQuoted.tokens ∧ restQuoted.anchors = rest.anchors) :
    Links WithinId Same read again where
  agree within read_eq again_eq := by
    cases within with
    | same _ requoted => exact links.agree requoted read_eq again_eq
    | id text requoted => exact atId requoted read_eq again_eq

theorem nextIsOneOf {read : Bool → Read A} {again : Bool → Read B} {ends : List Token}
    (links : ∀ found, Links Requoted Same (read found) (again found)) :
    Links Requoted Same (nextIsOneOf ends >>= read) (nextIsOneOf ends >>= again) := by
  rw [Yaml.nextIsOneOf, bind_assoc, bind_assoc]
  exact next fun head? => (links _).heading

/-- The first part of a flow collection needs no mark before it, and the others do. -/
theorem follows {read : Bool → Read A} {again : Bool → Read B} (first : Bool)
    (links : ∀ goesOn, Links Requoted Same (read goesOn) (again goesOn)) :
    Links Requoted Same ((if first then Pure.pure true else Yaml.accept .flowEntry) >>= read)
      ((if first then Pure.pure true else Yaml.accept .flowEntry) >>= again) := by
  cases first with
  | true => exact links true
  | false => exact accept (by simp) links

theorem anchor : Keeps Eq anchor := by
  refine next fun head? => ?_
  split
  · simp only [seqRight_eq_bind]
    exact advance (by simp) (pure rfl)
  · exact (pure rfl).heading

theorem tag (handles : Handles) : Keeps Eq (tag handles) := by
  refine next fun head? => ?_
  split
  · refine advance (by simp) (bind (lift _) fun same => pure (congrArg some same))
  · exact (pure rfl).heading

/-- Naming an anchor looks at the anchors alone. -/
theorem named (name? tag : Option String) : Keeps Eq (match name? with
    | some name => do
        let (number, source) := (← get).named name
        set source
        Pure.pure ⟨some number, tag⟩
    | none => Pure.pure ⟨none, tag⟩ : Read Properties) where
  agree requoted read again := by
    cases name? <;> cases read <;> cases again <;> exact ⟨rfl, requoted, rfl⟩

theorem properties (handles : Handles) : Keeps Eq (properties handles) := by
  refine bind anchor fun {before _} same => ?_
  subst same
  refine bind (tag handles) fun {tag _} same => ?_
  subst same
  dsimp only
  split
  · refine bind anchor fun {after _} same => ?_
    subst same
    exact named (before <|> after) tag
  · refine bind (pure rfl) fun {after _} same => ?_
    subst same
    exact named (before <|> after) tag

theorem aliased (name : String) : Keeps Eq (do
    let anchor ← liftM ((← get).anchors.lookup name)
    Pure.pure (Node.alias anchor) : Read Node) where
  agree {_ _ anchors _ _ _ _} requoted read again :=
    (bind (lift (anchors.lookup name)) fun same => pure (congrArg Node.alias same)).agree
      requoted read again

theorem emptyWith (properties : Properties) : Keeps Eq (emptyWith properties) := by
  rw [Yaml.emptyWith]
  split
  · exact failure
  · exact pure rfl

end Links

def SameNode (node again : Node) : Prop := node.idsQuoted = again.idsQuoted

def SameItems (items again : List Node) : Prop := Node.itemsQuoted items = Node.itemsQuoted again

def SamePairs (pairs again : List (Node × Node)) : Prop :=
  Node.pairsQuoted pairs = Node.pairsQuoted again

/-- With so much fuel, nodes and their parts are read the same. -/
structure ReadsSame (handles : Handles) (fuel : Nat) : Prop where
  node (block level : Bool) :
    Keeps SameNode (node handles fuel block level)
  blockItems : Keeps SameItems (blockItems handles fuel)
  levelItems : Keeps SameItems (levelItems handles fuel)
  blockPairs : Keeps SamePairs (blockPairs handles fuel)
  blockPart : Keeps SameNode (blockPart handles fuel)
  flowItems (first : Bool) :
    Keeps SameItems (flowItems handles fuel first)
  flowPair : Links WithinId SameNode (flowPair handles fuel) (flowPair handles fuel)
  flowValue (ends : List Token) :
    Keeps SameNode (flowValue handles fuel ends)
  flowPairs (first : Bool) :
    Keeps SamePairs (flowPairs handles fuel first)

namespace ReadsSame

variable {handles : Handles} {fuel : Nat}

theorem sequence {items again : List Node} (properties : Properties)
    (same : SameItems items again) :
    SameNode (.sequence properties items) (.sequence properties again) :=
  congrArg (Node.sequence properties) same

theorem mapping {pairs again : List (Node × Node)} (properties : Properties)
    (same : SamePairs pairs again) :
    SameNode (.mapping properties pairs) (.mapping properties again) :=
  congrArg (Node.mapping properties) same

theorem steady {read : Read Node} (links : Keeps Eq read) : Links Requoted SameNode read read where
  agree requoted read_eq again_eq := by
    obtain ⟨rfl, rest⟩ := links.agree requoted read_eq again_eq
    exact ⟨rfl, rest⟩

theorem zero : ReadsSame handles 0 where
  node _ _ := .failure
  blockItems := .failure
  levelItems := .failure
  blockPairs := .failure
  blockPart := .failure
  flowItems _ := .failure
  flowPair := .failure
  flowValue _ := .failure
  flowPairs _ := .failure

theorem node_succ (inner : ReadsSame handles fuel) (block level : Bool) :
    Keeps SameNode (Yaml.node handles (fuel + 1) block level) := by
  have empty (properties : Properties) {head? : Option Token} :
      Links (Heading head?) SameNode (emptyWith properties) (emptyWith properties) :=
    (steady (.emptyWith properties)).heading
  rw [Yaml.node]
  refine .next fun head? => ?_
  split
  · exact .advance (by simp) (steady (.aliased _))
  · refine ((Links.properties handles).bind fun {properties _} same => ?_).heading
    subst same
    refine .next fun head? => ?_
    split
    · exact .advance (by simp) (.pure rfl)
    · exact .advance (by simp) ((inner.flowItems true).map (sequence properties))
    · exact .advance (by simp) ((inner.flowPairs true).map (mapping properties))
    · split
      · exact .advance (by simp) (inner.blockItems.map (sequence properties))
      · exact empty properties
    · split
      · exact .advance (by simp) (inner.blockPairs.map (mapping properties))
      · exact empty properties
    · split
      · exact (inner.levelItems.map (sequence properties)).heading
      · exact empty properties
    · exact empty properties

theorem items {item itemAgain : Node} {rest restAgain : List Node} (first : SameNode item itemAgain)
    (others : SameItems rest restAgain) : SameItems (item :: rest) (itemAgain :: restAgain) := by
  rw [SameItems, Node.itemsQuoted, Node.itemsQuoted, first, others]

theorem consItem {item again : Node} {read : Read (List Node)} (further : Keeps SameItems read)
    (same : SameNode item again) :
    Links Requoted SameItems (do return item :: (← read)) (do return again :: (← read)) :=
  further.bind fun rest => .pure (items same rest)

/-- An item of a block sequence, which is empty where the next token ends it, and further items. -/
theorem blockItem (inner : ReadsSame handles fuel) {read : Read (List Node)} (ends : List Token)
    (further : Keeps SameItems read) :
    Keeps SameItems (do
      let item ← if ← nextIsOneOf ends then pure Node.empty else Yaml.node handles fuel true false
      return item :: (← read)) := by
  refine .nextIsOneOf fun ended => ?_
  cases ended with
  | true => exact consItem further rfl
  | false => exact (inner.node true false).bind (consItem further)

theorem blockItems_succ (inner : ReadsSame handles fuel) :
    Keeps SameItems (Yaml.blockItems handles (fuel + 1)) := by
  rw [Yaml.blockItems]
  refine .accept (by simp) fun entry => ?_
  cases entry with
  | true => exact inner.blockItem _ inner.blockItems
  | false =>
      refine .accept (by simp) fun ended => ?_
      cases ended with
      | true => exact .pure rfl
      | false => exact .failure

theorem levelItems_succ (inner : ReadsSame handles fuel) :
    Keeps SameItems (Yaml.levelItems handles (fuel + 1)) := by
  rw [Yaml.levelItems]
  refine .accept (by simp) fun entry => ?_
  cases entry with
  | true => exact inner.blockItem _ inner.levelItems
  | false => exact .pure rfl

theorem node_scalar {block level : Bool} {style : Style} {text : String} {tokens : List Token}
    {anchors : List (String × Nat)} {result : Node × Progress}
    (read : Yaml.node handles fuel block level ⟨.scalar style text :: tokens, anchors⟩ =
      some result) :
    result = (.scalar ⟨none, none⟩ style text, ⟨tokens, anchors⟩) := by
  cases fuel with
  | zero =>
      rw [Yaml.node] at read
      cases read
  | succ fuel =>
      rw [Yaml.node] at read
      cases read
      rfl

theorem blockPart_scalar {style : Style} {text : String} {tokens : List Token}
    {anchors : List (String × Nat)} {result : Node × Progress}
    (read : Yaml.blockPart handles fuel ⟨.scalar style text :: tokens, anchors⟩ = some result) :
    result = (.scalar ⟨none, none⟩ style text, ⟨tokens, anchors⟩) := by
  cases fuel with
  | zero =>
      rw [Yaml.blockPart] at read
      cases read
  | succ fuel =>
      rw [Yaml.blockPart] at read
      exact node_scalar read

theorem flowValue_scalar {ends : List Token} {style : Style} {text : String} {tokens : List Token}
    {anchors : List (String × Nat)} {result : Node × Progress}
    (goesOn : ends.contains (.scalar style text) = false)
    (read : Yaml.flowValue handles fuel ends ⟨.value :: .scalar style text :: tokens, anchors⟩ =
      some result) : result = (.scalar ⟨none, none⟩ style text, ⟨tokens, anchors⟩) := by
  cases fuel with
  | zero =>
      rw [Yaml.flowValue] at read
      cases read
  | succ fuel =>
      rw [Yaml.flowValue] at read
      change (if ends.contains (.scalar style text) then (Pure.pure Node.empty : Read Node)
        else Yaml.node handles fuel false false) ⟨.scalar style text :: tokens, anchors⟩ = _ at read
      rw [goesOn] at read
      exact node_scalar read

section IdPairs

variable {A : Type} {style : Style} {text : String} {tokens : List Token}
  {anchors : List (String × Nat)} {next : Node → Node → Read A} {result : A × Progress}

/-- A key `id` and a scalar of a block mapping are read as they stand. -/
theorem blockPart_id
    (read : (do
      let key ← Yaml.blockPart handles fuel
      let value ← if ← accept .value then Yaml.blockPart handles fuel else pure Node.empty
      next key value)
        ⟨.scalar .plain "id" :: .value :: .scalar style text :: tokens, anchors⟩ = some result) :
    next (.scalar ⟨none, none⟩ .plain "id") (.scalar ⟨none, none⟩ style text) ⟨tokens, anchors⟩ =
      some result := by
  obtain ⟨_, key_read, read⟩ := Option.bind_eq_some_iff.mp read
  cases blockPart_scalar key_read
  obtain ⟨_, value_read, read⟩ := Option.bind_eq_some_iff.mp read
  cases blockPart_scalar value_read
  exact read

/-- A key `id` and a scalar of a flow mapping are read as they stand. -/
theorem flowValue_id {ends starts : List Token} {missing : Read Node}
    (begins : starts.contains (.scalar .plain "id") = false)
    (goesOn : ends.contains (.scalar style text) = false)
    (read : (do
      let key ← if ← nextIsOneOf starts then missing else Yaml.node handles fuel false false
      let value ← Yaml.flowValue handles fuel ends
      next key value)
        ⟨.scalar .plain "id" :: .value :: .scalar style text :: tokens, anchors⟩ = some result) :
    next (.scalar ⟨none, none⟩ .plain "id") (.scalar ⟨none, none⟩ style text) ⟨tokens, anchors⟩ =
      some result := by
  replace read : (if starts.contains (.scalar .plain "id") then missing >>= _
    else Yaml.node handles fuel false false >>= _)
      (⟨.scalar .plain "id" :: .value :: .scalar style text :: tokens, anchors⟩ : Progress) =
        some result := read
  rw [begins] at read
  obtain ⟨_, key_read, read⟩ := Option.bind_eq_some_iff.mp read
  cases node_scalar key_read
  obtain ⟨_, value_read, read⟩ := Option.bind_eq_some_iff.mp read
  cases flowValue_scalar goesOn value_read
  exact read

end IdPairs

theorem pairs {key keyAgain value valueAgain : Node} {rest restAgain : List (Node × Node)}
    (keys : SameNode key keyAgain) (values : SameNode value valueAgain)
    (others : SamePairs rest restAgain) :
    SamePairs ((key, value) :: rest) ((keyAgain, valueAgain) :: restAgain) := by
  have isId : key.isId = keyAgain.isId := by
    rw [← Node.isId_idsQuoted key, keys, Node.isId_idsQuoted]
  rw [SamePairs, Node.pairsQuoted, Node.pairsQuoted, keys, values, others, isId]

theorem consPair {key keyAgain value valueAgain : Node} {read : Read (List (Node × Node))}
    (further : Keeps SamePairs read) (keys : SameNode key keyAgain)
    (values : SameNode value valueAgain) :
    Links Requoted SamePairs (do return (key, value) :: (← read))
      (do return (keyAgain, valueAgain) :: (← read)) :=
  further.bind fun rest => .pure (pairs keys values rest)

/-- The pair of the key `id` and a number is the same pair with the number in quotes. -/
theorem idPairs {text : String} {rest restAgain : List (Node × Node)}
    (others : SamePairs rest restAgain) :
    SamePairs
      ((.scalar ⟨none, none⟩ .plain "id", .scalar ⟨none, none⟩ .plain text) :: rest)
      ((.scalar ⟨none, none⟩ .plain "id", .scalar ⟨none, none⟩ .doubleQuoted text) ::
        restAgain) := by
  rw [SamePairs, Node.pairsQuoted, Node.pairsQuoted, others]
  rfl

theorem blockPairs_succ (inner : ReadsSame handles fuel) :
    Keeps SamePairs (Yaml.blockPairs handles (fuel + 1)) := by
  rw [Yaml.blockPairs]
  refine .acceptKey (.withinId ?other ?atId) (.accept (by simp) fun ended => ?ended)
  case other =>
    refine inner.blockPart.bind fun keys => .accept (by simp) fun valued => ?_
    cases valued with
    | true => exact inner.blockPart.bind (consPair inner.blockPairs keys)
    | false => exact consPair inner.blockPairs keys rfl
  case atId =>
    intro text tokens quoted anchors a rest b restQuoted requoted read again
    exact (inner.blockPairs.bind fun rest => .pure (idPairs rest)).agree requoted
      (blockPart_id read) (blockPart_id again)
  case ended =>
    cases ended with
    | true => exact .pure rfl
    | false => exact .failure

theorem blockPart_succ (inner : ReadsSame handles fuel) :
    Keeps SameNode (Yaml.blockPart handles (fuel + 1)) := by
  rw [Yaml.blockPart]
  refine .nextIsOneOf fun ended => ?_
  cases ended with
  | true => exact .pure rfl
  | false => exact inner.node true true

theorem flowItems_succ (inner : ReadsSame handles fuel) (first : Bool) :
    Keeps SameItems (Yaml.flowItems handles (fuel + 1) first) := by
  have others {item again : Node} (same : SameNode item again) :=
    consItem (inner.flowItems false) same
  rw [Yaml.flowItems]
  refine .accept (by simp) fun ended => ?_
  cases ended with
  | true => exact .pure rfl
  | false =>
      refine .follows first fun goesOn => ?_
      cases goesOn with
      | true =>
          refine .acceptKey (inner.flowPair.bind others) (.accept (by simp) fun ended => ?_)
          cases ended with
          | true => exact .pure rfl
          | false => exact (inner.node false false).bind others
      | false => exact .failure

theorem flowValue_succ (inner : ReadsSame handles fuel) (ends : List Token) :
    Keeps SameNode (Yaml.flowValue handles (fuel + 1) ends) := by
  rw [Yaml.flowValue]
  refine .accept (by simp) fun valued => ?_
  cases valued with
  | true =>
      refine .nextIsOneOf fun ended => ?_
      cases ended with
      | true => exact .pure rfl
      | false => exact inner.node false false
  | false => exact .pure rfl

theorem flowPair_succ (inner : ReadsSame handles fuel) :
    Links WithinId SameNode (Yaml.flowPair handles (fuel + 1))
      (Yaml.flowPair handles (fuel + 1)) := by
  have single {key keyAgain value valueAgain : Node} (keys : SameNode key keyAgain)
      (values : SameNode value valueAgain) :
      SameNode (.mapping ⟨none, none⟩ [(key, value)])
        (.mapping ⟨none, none⟩ [(keyAgain, valueAgain)]) :=
    mapping _ (pairs keys values rfl)
  have value {key keyAgain : Node} (keys : SameNode key keyAgain) :
      Links Requoted SameNode
        (do
          let value ← Yaml.flowValue handles fuel [.flowEntry, .flowSequenceEnd]
          pure (.mapping ⟨none, none⟩ [(key, value)]))
        (do
          let value ← Yaml.flowValue handles fuel [.flowEntry, .flowSequenceEnd]
          pure (.mapping ⟨none, none⟩ [(keyAgain, value)])) :=
    (inner.flowValue _).bind fun values => .pure (single keys values)
  rw [Yaml.flowPair]
  refine .withinId ?other ?atId
  case other =>
    rw [Yaml.nextIsOneOf, bind_assoc]
    refine .next fun head? => ?_
    simp only [pure_bind]
    split
    · rename_i missing
      simp only [seqRight_eq_bind, bind_assoc, pure_bind]
      refine .advance ?_ (value rfl)
      rintro rfl
      simp at missing
    · exact ((inner.node false false).bind value).heading
  case atId =>
    intro text tokens quoted anchors a rest b restQuoted requoted read again
    exact (Links.pure (mapping _ (idPairs rfl))).agree requoted (flowValue_id rfl rfl read)
      (flowValue_id rfl rfl again)

theorem flowPairs_succ (inner : ReadsSame handles fuel) (first : Bool) :
    Keeps SamePairs (Yaml.flowPairs handles (fuel + 1) first) := by
  have others {key keyAgain value valueAgain : Node} (keys : SameNode key keyAgain)
      (values : SameNode value valueAgain) := consPair (inner.flowPairs false) keys values
  rw [Yaml.flowPairs]
  refine .accept (by simp) fun ended => ?_
  cases ended with
  | true => exact .pure rfl
  | false =>
      refine .follows first fun goesOn => ?_
      cases goesOn with
      | false => exact .failure
      | true =>
          refine .acceptKey (.withinId ?other ?atId) (.accept (by simp) fun ended => ?ended)
          case other =>
            refine .nextIsOneOf fun missing => ?_
            cases missing with
            | true => exact (inner.flowValue _).bind (others rfl)
            | false =>
                exact (inner.node false false).bind fun keys =>
                  (inner.flowValue _).bind (others keys)
          case atId =>
            intro text tokens quoted anchors a rest b restQuoted requoted read again
            exact ((inner.flowPairs false).bind fun rest => .pure (idPairs rest)).agree requoted
              (flowValue_id rfl rfl read) (flowValue_id rfl rfl again)
          case ended =>
            cases ended with
            | true => exact .pure rfl
            | false => exact (inner.node false false).bind fun keys => others keys rfl

theorem all (handles : Handles) (fuel : Nat) : ReadsSame handles fuel := by
  induction fuel with
  | zero => exact zero
  | succ fuel inner =>
      exact {
        node := inner.node_succ
        blockItems := inner.blockItems_succ
        levelItems := inner.levelItems_succ
        blockPairs := inner.blockPairs_succ
        blockPart := inner.blockPart_succ
        flowItems := inner.flowItems_succ
        flowPair := inner.flowPair_succ
        flowValue := inner.flowValue_succ
        flowPairs := inner.flowPairs_succ }

end ReadsSame

/-- Documents whose roots are the same apart from quotes around values of keys `id`. -/
def SameDocument (document again : Document) : Prop :=
  document.root.map Node.idsQuoted = again.root.map Node.idsQuoted

theorem directives?_same {tokens quoted : List Token} (requoted : Requoted tokens quoted)
    {versioned : Bool} {handles : Handles} {result again : Handles × List Token}
    (read : directives? versioned handles tokens = some result)
    (readAgain : directives? versioned handles quoted = some again) :
    again.1 = result.1 ∧ Requoted result.2 again.2 := by
  induction requoted generalizing versioned handles with
  | nil => cases read
  | id text rest ih => cases read
  | same token rest ih =>
      cases token with
      | version major minor =>
          rw [directives?] at read readAgain
          split at read
          · cases read
          · rename_i known
            rw [if_neg known] at readAgain
            exact ih read readAgain
      | tagDirective handle start =>
          rw [directives?] at read readAgain
          split at read
          · cases read
          · rename_i unknown
            rw [if_neg unknown] at readAgain
            exact ih read readAgain
      | documentStart =>
          cases read
          cases readAgain
          exact ⟨rfl, rest⟩
      | _ => cases read

namespace Document

theorem root?_eq (handles : Handles) (tokens : List Token) (marked : Bool) :
    root? handles tokens marked =
      if marked && tokens.head?.all (· = .documentEnd) then some (Node.empty, tokens)
      else (node (handles ++ standardHandles) (4 * tokens.length + 4) true false ⟨tokens, []⟩).map
        fun (root, source) => (root, source.tokens) := by
  cases tokens <;> rfl

theorem root?_same {tokens quoted : List Token} (requoted : Requoted tokens quoted)
    {handles : Handles} {marked : Bool} {result again : Node × List Token}
    (read : root? handles tokens marked = some result)
    (readAgain : root? handles quoted marked = some again) :
    SameNode result.1 again.1 ∧ Requoted result.2 again.2 := by
  rw [root?_eq] at read
  rw [root?_eq, requoted.head?_eq, requoted.length_eq] at readAgain
  split at read
  · rename_i empty
    rw [if_pos empty] at readAgain
    cases read
    cases readAgain
    exact ⟨rfl, requoted⟩
  · rename_i written
    rw [if_neg written] at readAgain
    obtain ⟨⟨root, rest⟩, node_read, rfl⟩ := Option.map_eq_some_iff.mp read
    obtain ⟨⟨rootAgain, restAgain⟩, nodeAgain_read, rfl⟩ := Option.map_eq_some_iff.mp readAgain
    have same := ((ReadsSame.all _ _).node true false).agree requoted node_read nodeAgain_read
    exact ⟨same.1, same.2.1⟩

theorem content?_same {tokens quoted : List Token} (requoted : Requoted tokens quoted)
    {handles : Handles} {marked : Bool} {document again : Document}
    (read : content? handles tokens marked = some document)
    (readAgain : content? handles quoted marked = some again) : SameDocument document again := by
  simp only [content?, Option.bind_eq_bind, Option.bind_eq_some_iff, Option.ite_none_right_eq_some,
    Option.some.injEq] at read readAgain
  obtain ⟨⟨root, rest⟩, root_read, -, rfl⟩ := read
  obtain ⟨⟨rootAgain, restAgain⟩, rootAgain_read, -, rfl⟩ := readAgain
  exact congrArg some (root?_same requoted root_read rootAgain_read).1

/-- Requoted tokens are those of the same document, apart from quotes around values of keys
`id`. -/
theorem ofTokens?_same {tokens quoted : List Token} (requoted : Requoted tokens quoted)
    {document again : Document} (read : ofTokens? tokens = some document)
    (readAgain : ofTokens? quoted = some again) : SameDocument document again := by
  -- Directives, or the mark of a start, come before the content.
  have marked (read : (directives? false [] tokens).bind (fun found =>
        content? found.1 found.2 true) = some document)
      (readAgain : (directives? false [] quoted).bind (fun found =>
        content? found.1 found.2 true) = some again) : SameDocument document again := by
    obtain ⟨⟨handles, rest⟩, directives, read⟩ := Option.bind_eq_some_iff.mp read
    obtain ⟨⟨_, restAgain⟩, directivesAgain, readAgain⟩ := Option.bind_eq_some_iff.mp readAgain
    obtain ⟨rfl, requoted⟩ := directives?_same requoted directives directivesAgain
    exact content?_same requoted read readAgain
  cases requoted with
  | nil =>
      cases read
      cases readAgain
      rfl
  | id text rest => exact content?_same (.id text rest) read readAgain
  | same token rest =>
      cases token with
      | version => exact marked read readAgain
      | tagDirective => exact marked read readAgain
      | documentStart => exact marked read readAgain
      | _ => exact content?_same (.same _ rest) read readAgain

end Document

end HostAudit.Yaml
