import HostAudit.Yaml.Token.Scalar

/-
This file cuts YAML text into tokens. The indentation of blocks becomes tokens, and a key that has
no mark of its own gets one once the colon after it is found.
-/

namespace HostAudit.Yaml

/-- A place where a key may have begun. A required one must turn out to be a key. -/
structure Candidate where
  required : Bool
  /-- The number of tokens before it. -/
  place : Nat
  index : Nat
  line : Nat
  column : Nat
deriving Repr

/-- The tokens read so far, and what decides how the next one reads. `candidates` has an entry for
the block and one for each open flow collection, the innermost first. -/
structure Lexer where
  cursor : Cursor
  tokens : List Token
  indent : Int
  outer : List Int
  keyAllowed : Bool
  candidates : List (Option Candidate)
deriving Repr

namespace Lexer

def ofText (text : List Char) : Lexer := ⟨.ofText text, [], -1, [], true, [none]⟩

def inFlow (lexer : Lexer) : Bool := 1 < lexer.candidates.length

def emit (lexer : Lexer) (token : Token) : Lexer :=
  { lexer with tokens := lexer.tokens ++ [token] }

/-- This puts a token after the first `place` ones. -/
def insert (lexer : Lexer) (place : Nat) (token : Token) : Lexer :=
  { lexer with tokens := lexer.tokens.take place ++ token :: lexer.tokens.drop place }

def skip (lexer : Lexer) (count : Nat) : Lexer :=
  { lexer with cursor := lexer.cursor.skip count }

def allowKey (lexer : Lexer) (allowed : Bool) : Lexer := { lexer with keyAllowed := allowed }

/-- This opens a block at a column that is further in than the current block. -/
def openBlock (lexer : Lexer) (column : Nat) (place : Nat) (token : Token) : Lexer :=
  if !lexer.inFlow && lexer.indent < column then
    { lexer.insert place token with
      indent := column
      outer := lexer.indent :: lexer.outer }
  else lexer

/-- This closes the blocks that are further in than `column`, at most `fuel` of them. -/
def closeBlocks (lexer : Lexer) (column : Int) : Nat → Lexer
  | 0 => lexer
  | fuel + 1 =>
      if !lexer.inFlow && column < lexer.indent then
        match lexer.outer with
        | indent :: outer =>
            closeBlocks { lexer.emit .blockEnd with indent, outer } column fuel
        | [] => lexer
      else lexer

def unroll (lexer : Lexer) (column : Int) : Lexer := lexer.closeBlocks column lexer.outer.length

/-- A candidate must be on the current line and not too far back. -/
def isStale (cursor : Cursor) (candidate : Candidate) : Bool :=
  candidate.line < cursor.line || candidate.index + 1024 < cursor.index

/-- This drops the candidates that can no longer be keys. A required one must not be lost. -/
def dropStale? (lexer : Lexer) : Option Lexer :=
  let stale (entry : Option Candidate) : Bool := entry.any (isStale lexer.cursor)
  if lexer.candidates.any fun entry => stale entry && entry.any (·.required) then none
  else some { lexer with
    candidates := lexer.candidates.map fun entry => if stale entry then none else entry }

/-- This drops the innermost candidate, which must not be a required one. -/
def dropCandidate? (lexer : Lexer) : Option Lexer :=
  match lexer.candidates with
  | some candidate :: rest =>
      if candidate.required then none else some { lexer with candidates := none :: rest }
  | _ => some lexer

/-- This notes that a key may begin here. -/
def noteCandidate? (lexer : Lexer) : Option Lexer :=
  if lexer.keyAllowed then do
    let cursor := lexer.cursor
    let candidate : Candidate :=
      ⟨!lexer.inFlow && lexer.indent == cursor.column, lexer.tokens.length, cursor.index,
        cursor.line, cursor.column⟩
    let lexer ← lexer.dropCandidate?
    pure { lexer with candidates := some candidate :: lexer.candidates.drop 1 }
  else some lexer

/-- This passes over blanks, comments and line breaks up to the next token. -/
def toNextToken (lexer : Lexer) : Nat → Lexer
  | 0 => lexer
  | fuel + 1 =>
      let cursor := lexer.cursor
      let cursor := match cursor.column, cursor.rest with
        | 0, '\ufeff' :: _ => cursor.skip 1
        | _, _ => cursor
      let tabs := lexer.inFlow || !lexer.keyAllowed
      let cursor := (cursor.skipWhile fun c => c == ' ' || (tabs && c == '\t')).skipComment
      match cursor.takeBreak? with
      | some (_, cursor) =>
          toNextToken { lexer with cursor, keyAllowed := lexer.keyAllowed || !lexer.inFlow } fuel
      | none => { lexer with cursor }

/-- This ends the current key and all blocks, before a mark of the document. -/
def leaveBlocks? (lexer : Lexer) : Option Lexer := do
  let lexer ← (lexer.unroll (-1)).dropCandidate?
  pure (lexer.allowKey false)

/-- This reads a number of a version, of at most nine digits. -/
def version? (cursor : Cursor) : Option (Nat × Cursor) :=
  let (digits, cursor) := cursor.takeWhile Integer.isDigit
  if 9 < digits.length then none
  else (Integer.natural? 10 digits).map fun value => (value, cursor)

/-- This reads the bytes of a percent escape. -/
def escapedByte? : List Char → Option (Nat × List Char)
  | '%' :: high :: low :: rest => do
      let value ← Integer.natural? 16 [high, low]
      pure (value, rest)
  | _ => none

/-- This reads `count` further bytes of a character. -/
def escapedTail? : Nat → Nat → List Char → Option (Nat × List Char)
  | 0, code, rest => some (code, rest)
  | count + 1, code, rest => do
      let (byte, rest) ← escapedByte? rest
      if byte / 64 ≠ 2 then none
      escapedTail? count (code * 64 + byte % 64) rest

/-- This reads a character that percent escapes spell in UTF-8. -/
def escapedChar? (text : List Char) : Option (Char × List Char) := do
  let (byte, rest) ← escapedByte? text
  let (count, code) ←
    if byte < 0x80 then some (0, byte)
    else if byte / 32 = 6 then some (1, byte % 32)
    else if byte / 16 = 14 then some (2, byte % 16)
    else if byte / 8 = 30 then some (3, byte % 8)
    else none
  let (code, rest) ← escapedTail? count code rest
  if code.isValidChar then some (Char.ofNat code, rest) else none

/-- A character of the text of a tag; brackets and commas belong to tags in angles only. -/
def isTagChar (angled : Bool) (c : Char) : Bool :=
  isName c || ";/?:@&=+$.!~*'()".toList.contains c || (angled && ",[]".toList.contains c)

/-- This reads the text of a tag. -/
def tagText? (angled : Bool) : Nat → List Char → Option (List Char × List Char)
  | 0, rest => some ([], rest)
  | fuel + 1, text =>
      match text with
      | '%' :: _ => do
          let (c, rest) ← escapedChar? text
          let (more, rest) ← tagText? angled fuel rest
          pure (c :: more, rest)
      | c :: rest =>
          if isTagChar angled c then
            (tagText? angled fuel rest).map fun (more, rest) => (c :: more, rest)
          else some ([], text)
      | [] => some ([], [])

/-- This reads the text of a tag from the cursor. -/
def takeTagText? (angled : Bool) (cursor : Cursor) : Option (List Char × Cursor) :=
  (tagText? angled (cursor.rest.length + 1) cursor.rest).map fun (text, rest) =>
    (text, cursor.skip (cursor.rest.length - rest.length))

/-- This reads a handle: a mark, a name, and perhaps a second mark. -/
def takeHandle (cursor : Cursor) : List Char × Cursor :=
  let (name, after) := (cursor.skip 1).takeWhile isName
  match after.rest with
  | '!' :: _ => ('!' :: name ++ ['!'], after.skip 1)
  | _ => ('!' :: name, after)

/-- This reads a tag: in angles, after a handle, or after a single mark. -/
def takeTag? (flow : Bool) (cursor : Cursor) : Option (Token × Cursor) := do
  let (handle, suffix, cursor) ← match cursor.rest with
    | '!' :: '<' :: _ => do
        let (text, cursor) ← takeTagText? true (cursor.skip 2)
        match text, cursor.rest with
        | _ :: _, '>' :: _ => some ([], text, cursor.skip 1)
        | _, _ => none
    | _ => do
        let (handle, after) := takeHandle cursor
        if 1 < handle.length && handle.getLast? == some '!' then
          let (text, cursor) ← takeTagText? false after
          if text.isEmpty then none else some (handle, text, cursor)
        else do
          let (more, cursor) ← takeTagText? false after
          let text := handle.drop 1 ++ more
          if text.isEmpty then some ([], ['!'], cursor) else some (['!'], text, cursor)
  let ended := endsWord cursor.rest || (flow && cursor.rest.head? == some ',')
  if ended then some (.tag (String.ofList handle) (String.ofList suffix), cursor) else none

/-- This reads the second number of the version of a directive, behind the first. -/
def minorVersion? (major : Nat) (cursor : Cursor) : Option (Token × Cursor) :=
  if cursor.rest.head? = some '.' then
    (version? (cursor.skip 1)).map fun (minor, cursor) => (.version major minor, cursor)
  else none

/-- This reads the version of a directive. -/
def versionDirective? (cursor : Cursor) : Option (Token × Cursor) :=
  (version? (cursor.skipWhile isSpace)).bind fun (major, cursor) => minorVersion? major cursor

/-- A directive may declare a single mark, or a name between two marks. -/
def mayBeDeclared (handle : List Char) : Bool :=
  handle == ['!'] || (1 < handle.length && handle.getLast? == some '!')

/-- This reads what the handle of a directive stands for. -/
def handleMeaning? (handle : List Char) (cursor : Cursor) : Option (Token × Cursor) :=
  if mayBeDeclared handle && cursor.rest.head?.any isSpace then
    (takeTagText? true (cursor.skipWhile isSpace)).bind fun (text, cursor) =>
      if text.isEmpty || !endsWord cursor.rest then none
      else some (.tagDirective (String.ofList handle) (String.ofList text), cursor)
  else none

/-- This reads the handle of a directive and what it stands for. -/
def tagDirective? (cursor : Cursor) : Option (Token × Cursor) :=
  let start := cursor.skipWhile isSpace
  if start.rest.head? = some '!' then handleMeaning? (takeHandle start).1 (takeHandle start).2
  else none

def directive? (name : String) (cursor : Cursor) : Option (Token × Cursor) :=
  match name with
  | "YAML" => versionDirective? cursor
  | "TAG" => tagDirective? cursor
  | _ => none

/-- This reads a directive and the rest of its line. -/
def takeDirective? (cursor : Cursor) : Option (Token × Cursor) :=
  let (name, cursor) := (cursor.skip 1).takeWhile isName
  if endsWord cursor.rest then
    (directive? (String.ofList name) cursor).bind fun (token, cursor) =>
      cursor.finishLine?.map fun cursor => (token, cursor)
  else none

/-- This reads the name of an anchor or an alias, after its mark. -/
def takeName? (cursor : Cursor) : Option (String × Cursor) :=
  let (name, cursor) := (cursor.skip 1).takeWhile isName
  let ended := match cursor.rest with
    | [] => true
    | c :: _ => isSpace c || isBreak c || "?:,]\x7d%@\x60".toList.contains c
  if name.isEmpty || !ended then none else some (String.ofList name, cursor)

/-- This reads a mark that opens a flow collection. -/
def openFlow? (token : Token) (lexer : Lexer) : Option Lexer := do
  let lexer ← lexer.noteCandidate?
  pure (({ lexer with candidates := none :: lexer.candidates }.allowKey true).skip 1 |>.emit token)

/-- This reads a mark that closes a flow collection. -/
def closeFlow? (token : Token) (lexer : Lexer) : Option Lexer := do
  let lexer ← lexer.dropCandidate?
  let candidates := if lexer.inFlow then lexer.candidates.drop 1 else lexer.candidates
  pure (({ lexer with candidates }.allowKey false).skip 1 |>.emit token)

def flowEntry? (lexer : Lexer) : Option Lexer := do
  let lexer ← lexer.dropCandidate?
  pure ((lexer.allowKey true).skip 1 |>.emit .flowEntry)

/-- This opens a block where an entry, a key or a value without a key stands, which must be where a
key may stand. -/
def enterBlock? (lexer : Lexer) (token : Token) : Option Lexer :=
  if lexer.inFlow then some lexer
  else if lexer.keyAllowed then
    some (lexer.openBlock lexer.cursor.column lexer.tokens.length token)
  else none

def blockEntry? (lexer : Lexer) : Option Lexer := do
  let lexer ← lexer.enterBlock? .blockSequenceStart
  let lexer ← lexer.dropCandidate?
  pure ((lexer.allowKey true).skip 1 |>.emit .blockEntry)

def key? (lexer : Lexer) : Option Lexer := do
  let lexer ← lexer.enterBlock? .blockMappingStart
  let lexer ← lexer.dropCandidate?
  pure ((lexer.allowKey !lexer.inFlow).skip 1 |>.emit .key)

/-- This reads the colon of a value. The innermost candidate turns out to be a key. -/
def value? (lexer : Lexer) : Option Lexer :=
  match lexer.candidates with
  | some candidate :: rest =>
      let lexer := lexer.insert candidate.place .key
      let lexer := lexer.openBlock candidate.column candidate.place .blockMappingStart
      some (({ lexer with candidates := none :: rest }.allowKey false).skip 1 |>.emit .value)
  | _ => do
      let lexer ← lexer.enterBlock? .blockMappingStart
      pure ((lexer.allowKey !lexer.inFlow).skip 1 |>.emit .value)

/-- This reads a token that may begin a key. -/
def keyPart? (take : Cursor → Option (Token × Cursor)) (lexer : Lexer) : Option Lexer := do
  let lexer ← lexer.noteCandidate?
  let (token, cursor) ← take lexer.cursor
  pure ({ lexer with cursor }.allowKey false |>.emit token)

def quoted? (single : Bool) (cursor : Cursor) : Option (Token × Cursor) :=
  (takeQuoted? single (cursor.rest.length + 1) (cursor.skip 1)).map fun (text, cursor) =>
    (.scalar (if single then .singleQuoted else .doubleQuoted) (String.ofList text), cursor)

/-- This reads a plain scalar; after a line break a key may begin. -/
def plain? (lexer : Lexer) : Option Lexer := do
  let lexer ← lexer.noteCandidate?
  let cursor := lexer.cursor
  let plain ← takePlain? lexer.inFlow (lexer.indent + 1).toNat (cursor.rest.length + 1)
    ⟨[], false, cursor⟩ ⟨[], [], cursor⟩
  pure ({ lexer with cursor := plain.cursor }.allowKey plain.newLine |>.emit
    (.scalar .plain (String.ofList plain.text)))

/-- This reads a block scalar; after it a key may begin. -/
def block? (literal : Bool) (lexer : Lexer) : Option Lexer := do
  let lexer ← lexer.dropCandidate?
  let parent := if 0 ≤ lexer.indent then some lexer.indent.toNat else none
  let (text, cursor) ← takeBlock? literal parent (lexer.cursor.skip 1)
  pure ({ lexer with cursor }.allowKey true |>.emit
    (.scalar (if literal then .literal else .folded) (String.ofList text)))

/-- A plain scalar begins here: with no mark, or with one that is a mark before blanks only. -/
def startsPlain (flow : Bool) : List Char → Bool
  | [] => false
  | c :: rest =>
      if c == '-' then !(rest.head?.any isSpace)
      else if c == '?' || c == ':' then !flow && !endsWord rest
      else !("-?:,[]\x7b\x7d#&*!|>'\"%@\x60".toList.contains c) && !isSpace c && !isBreak c

def isDirective (cursor : Cursor) : Bool := cursor.column == 0 && cursor.rest.head? == some '%'

/-- The way to read the token with which a text begins. -/
def reader? (flow : Bool) : List Char → Lexer → Option Lexer
  | [] => some
  | c :: rest =>
      match c with
      | '[' => openFlow? .flowSequenceStart
      | '\x7b' => openFlow? .flowMappingStart
      | ']' => closeFlow? .flowSequenceEnd
      | '\x7d' => closeFlow? .flowMappingEnd
      | ',' => flowEntry?
      | '*' => keyPart? fun cursor =>
          (takeName? cursor).map fun (name, cursor) => (.alias name, cursor)
      | '&' => keyPart? fun cursor =>
          (takeName? cursor).map fun (name, cursor) => (.anchor name, cursor)
      | '!' => keyPart? (takeTag? flow)
      | '\'' => keyPart? (quoted? true)
      | '"' => keyPart? (quoted? false)
      | c =>
          if c == '-' && endsWord rest then blockEntry?
          else if c == '?' && (flow || endsWord rest) then key?
          else if c == ':' && (flow || endsWord rest) then value?
          else if c == '|' && !flow then block? true
          else if c == '>' && !flow then block? false
          else if startsPlain flow (c :: rest) then plain?
          else fun _ => none

/-- This reads the token at the cursor, where there is one. -/
def token? (lexer : Lexer) : Option Lexer :=
  if isDirective lexer.cursor then do
    let lexer ← lexer.leaveBlocks?
    let (token, cursor) ← takeDirective? lexer.cursor
    pure ({ lexer with cursor }.emit token)
  else if lexer.cursor.atDocumentMark then do
    let token := if lexer.cursor.rest.head? = some '-' then .documentStart else .documentEnd
    let lexer ← lexer.leaveBlocks?
    pure ((lexer.skip 3).emit token)
  else reader? lexer.inFlow lexer.cursor.rest lexer

/-- This goes to the next token, and closes the blocks that end before it. -/
def settle? (lexer : Lexer) : Option Lexer :=
  (lexer.toNextToken (lexer.cursor.rest.length + 1)).dropStale?.map fun lexer =>
    lexer.unroll lexer.cursor.column

/-- This closes all blocks at the end of the text. -/
def finish? (lexer : Lexer) : Option (List Token) :=
  (lexer.unroll (-1)).dropCandidate?.map (·.tokens)

/-- This reads all tokens. -/
def run? (lexer : Lexer) : Nat → Option (List Token)
  | 0 => none
  | fuel + 1 => do
      let lexer ← lexer.settle?
      if lexer.cursor.rest.isEmpty then lexer.finish? else (← lexer.token?).run? fuel

end Lexer

/-- The tokens of a text. -/
def tokens? (text : List Char) : Option (List Token) :=
  if text.all isAllowed then (Lexer.ofText text).run? (text.length + 1) else none

end HostAudit.Yaml
