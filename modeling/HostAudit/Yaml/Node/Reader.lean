import HostAudit.Yaml.Node
import HostAudit.Yaml.Token.Lexer

/-
This file reads nodes and documents from tokens.
-/

namespace HostAudit.Yaml

/-- The tokens that are left, and the anchors that the names seen so far stand for. -/
structure Progress where
  tokens : List Token
  anchors : List (String × Nat)

/-- A step of reading, which may fail. -/
abbrev Read := StateT Progress Option

namespace Progress

/-- A name gets the number of names that are known before it. -/
def named (source : Progress) (name : String) : Nat × Progress :=
  let anchor := source.anchors.length
  (anchor, { source with
    anchors := (name, anchor) :: source.anchors.filter fun entry => entry.1 ≠ name })

end Progress

def next : Read (Option Token) := fun source => some (source.tokens.head?, source)

def advance : Read Unit := modify fun source => { source with tokens := source.tokens.tail }

/-- This passes over the next token if it is `token`, and tells whether it was. -/
def accept (token : Token) : Read Bool := do
  if (← next) = some token then
    advance
    pure true
  else pure false

/-- The next token is one of these, or there is none. -/
def nextIsOneOf (tokens : List Token) : Read Bool := do
  pure ((← next).all tokens.contains)

/-- The starts that tag handles stand for. -/
abbrev Handles := List (String × String)

/-- The tag that a handle and a suffix spell. -/
def Handles.tag? (handles : Handles) (handle suffix : String) : Option String :=
  if handle.isEmpty then some suffix else (handles.lookup handle).map (· ++ suffix)

def anchor : Read (Option String) := do
  match ← next with
  | some (.anchor name) => advance *> pure (some name)
  | _ => pure none

def tag (handles : Handles) : Read (Option String) := do
  match ← next with
  | some (.tag handle suffix) =>
      advance
      let tag ← liftM (handles.tag? handle suffix)
      pure (some tag)
  | _ => pure none

/-- This reads an anchor and a tag, in either order. -/
def properties (handles : Handles) : Read Properties := do
  let before ← anchor
  let tag ← tag handles
  let after ← if before.isNone && tag.isSome then anchor else pure none
  match before <|> after with
  | some name =>
      let (number, source) := (← get).named name
      set source
      pure ⟨some number, tag⟩
  | none => pure ⟨none, tag⟩

/-- A scalar with the tag `!` is as good as untagged. -/
def Properties.forScalar (properties : Properties) : Properties :=
  if properties.tag = some "!" then { properties with tag := none } else properties

/-- A node may be empty if it has properties. -/
def emptyWith (properties : Properties) : Read Node :=
  if properties = ⟨none, none⟩ then failure else pure (.scalar properties .plain "")

mutual

/-- This reads a node, which may be a block, and a sequence that is not further in. -/
def node (handles : Handles) : Nat → Bool → Bool → Read Node
  | 0, _, _ => failure
  | fuel + 1, block, level => do
      match ← next with
      | some (.alias name) =>
          advance
          let anchor ← liftM ((← get).anchors.lookup name)
          pure (.alias anchor)
      | _ =>
          let properties ← properties handles
          match ← next with
          | some (.scalar style text) =>
              advance
              pure (.scalar properties.forScalar style text)
          | some .flowSequenceStart =>
              advance
              .sequence properties <$> flowItems handles fuel true
          | some .flowMappingStart =>
              advance
              .mapping properties <$> flowPairs handles fuel true
          | some .blockSequenceStart =>
              if block then
                advance
                .sequence properties <$> blockItems handles fuel
              else emptyWith properties
          | some .blockMappingStart =>
              if block then
                advance
                .mapping properties <$> blockPairs handles fuel
              else emptyWith properties
          | some .blockEntry =>
              if level then .sequence properties <$> levelItems handles fuel
              else emptyWith properties
          | _ => emptyWith properties

def blockItems (handles : Handles) : Nat → Read (List Node)
  | 0 => failure
  | fuel + 1 => do
      if ← accept .blockEntry then
        let item ← if ← nextIsOneOf [.blockEntry, .blockEnd] then pure Node.empty
          else node handles fuel true false
        return item :: (← blockItems handles fuel)
      else if ← accept .blockEnd then pure []
      else failure

/-- This reads the items of a sequence that is no further in than the mapping around it. -/
def levelItems (handles : Handles) : Nat → Read (List Node)
  | 0 => failure
  | fuel + 1 => do
      if ← accept .blockEntry then
        let item ← if ← nextIsOneOf [.blockEntry, .key, .value, .blockEnd] then pure Node.empty
          else node handles fuel true false
        return item :: (← levelItems handles fuel)
      else pure []

def blockPairs (handles : Handles) : Nat → Read (List (Node × Node))
  | 0 => failure
  | fuel + 1 => do
      if ← accept .key then
        let key ← blockPart handles fuel
        let value ← if ← accept .value then blockPart handles fuel else pure Node.empty
        return (key, value) :: (← blockPairs handles fuel)
      else if ← accept .blockEnd then pure []
      else failure

/-- This reads a key or a value of a block mapping. -/
def blockPart (handles : Handles) : Nat → Read Node
  | 0 => failure
  | fuel + 1 => do
      if ← nextIsOneOf [.key, .value, .blockEnd] then pure Node.empty
      else node handles fuel true true

/-- This reads the rest of a flow sequence. An item with the mark of a key is a mapping. -/
def flowItems (handles : Handles) : Nat → Bool → Read (List Node)
  | 0, _ => failure
  | fuel + 1, first => do
      if ← accept .flowSequenceEnd then pure []
      else if ← (if first then pure true else accept .flowEntry) then
        if ← accept .key then
          let item ← flowPair handles fuel
          return item :: (← flowItems handles fuel false)
        else if ← accept .flowSequenceEnd then pure []
        else
          let item ← node handles fuel false false
          return item :: (← flowItems handles fuel false)
      else failure

/-- This reads a mapping of one pair within a flow sequence. Where its key is missing, the token
that stands in its place is lost. -/
def flowPair (handles : Handles) : Nat → Read Node
  | 0 => failure
  | fuel + 1 => do
      let key ← if ← nextIsOneOf [.value, .flowEntry, .flowSequenceEnd] then
          advance *> pure Node.empty
        else node handles fuel false false
      let value ← flowValue handles fuel [.flowEntry, .flowSequenceEnd]
      pure (.mapping ⟨none, none⟩ [(key, value)])

/-- This reads the value of a flow mapping, which is empty where one of `ends` follows. -/
def flowValue (handles : Handles) : Nat → List Token → Read Node
  | 0, _ => failure
  | fuel + 1, ends => do
      if ← accept .value then
        if ← nextIsOneOf ends then pure Node.empty else node handles fuel false false
      else pure Node.empty

def flowPairs (handles : Handles) : Nat → Bool → Read (List (Node × Node))
  | 0, _ => failure
  | fuel + 1, first => do
      if ← accept .flowMappingEnd then pure []
      else if ← (if first then pure true else accept .flowEntry) then
        if ← accept .key then
          let key ← if ← nextIsOneOf [.value, .flowEntry, .flowMappingEnd] then pure Node.empty
            else node handles fuel false false
          let value ← flowValue handles fuel [.flowEntry, .flowMappingEnd]
          return (key, value) :: (← flowPairs handles fuel false)
        else if ← accept .flowMappingEnd then pure []
        else
          let key ← node handles fuel false false
          return (key, Node.empty) :: (← flowPairs handles fuel false)
      else failure

end

/-- The handles that need no directive. -/
def standardHandles : Handles := [("!", "!"), ("!!", "tag:yaml.org,2002:")]

/-- This reads the directives of a document and the mark that ends them. -/
def directives? (versioned : Bool) (handles : Handles) :
    List Token → Option (Handles × List Token)
  | .version major minor :: rest =>
      if versioned || major ≠ 1 || (minor ≠ 1 && minor ≠ 2) then none
      else directives? true handles rest
  | .tagDirective handle start :: rest =>
      if (handles.lookup handle).isSome then none
      else directives? versioned ((handle, start) :: handles) rest
  | .documentStart :: rest => some (handles, rest)
  | _ => none

namespace Document

/-- This reads the root of a document; after the mark of its start there may be none. -/
def root? (handles : Handles) (tokens : List Token) (marked : Bool) :
    Option (Node × List Token) :=
  let ended := match tokens with
    | [] => true
    | token :: _ => token = .documentEnd
  if marked && ended then some (Node.empty, tokens)
  else
    let read := node (handles ++ standardHandles) (4 * tokens.length + 4) true false ⟨tokens, []⟩
    read.map fun (root, source) => (root, source.tokens)

/-- This reads a document whose directives have been read, with nothing after it. -/
def content? (handles : Handles) (tokens : List Token) (marked : Bool) : Option Document := do
  let (root, rest) ← root? handles tokens marked
  if rest.all (· = .documentEnd) then some ⟨some root⟩ else none

/-- This reads the one document that a token list holds. -/
def ofTokens? (tokens : List Token) : Option Document :=
  match tokens with
  | [] => some ⟨none⟩
  | .version .. :: _ | .tagDirective .. :: _ | .documentStart :: _ => do
      let (handles, rest) ← directives? false [] tokens
      content? handles rest true
  | _ => content? [] tokens false

/-- This reads the document of a text. -/
def read? (text : String) : Option Document := (tokens? text.toList).bind ofTokens?

end Document

end HostAudit.Yaml
