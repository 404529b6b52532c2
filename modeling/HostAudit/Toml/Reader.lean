import HostAudit.Toml.Quoted
import HostAudit.Toml.Scalar

/-
This file reads TOML documents.
-/

namespace HostAudit.Toml

def isBare (c : Char) : Bool := c.isAlphanum || c == '_' || c == '-'

def skipSpace (text : List Char) : List Char := text.dropWhile isSpace

/-- This reads a name without dots. -/
def takeName? (text : List Char) : Option (String × List Char) :=
  match text with
  | '"' :: _ | '\'' :: _ =>
      (takeQuotedLine? text).map fun (name, rest) => (String.ofList name, rest)
  | _ =>
      let name := text.takeWhile isBare
      if name.isEmpty then none else some (String.ofList name, text.dropWhile isBare)

/-- A name has fewer parts than this, and values nest less deep. -/
def nestingLimit : Nat := 80

/-- This reads the parts of a name, `fuel` of them at most. -/
def takeParts? : Nat → List Char → Option (List String × List Char)
  | 0, _ => none
  | fuel + 1, text => do
      let (name, rest) ← takeName? (skipSpace text)
      match skipSpace rest with
      | '.' :: rest =>
          let (names, rest) ← takeParts? fuel rest
          pure (name :: names, rest)
      | rest => pure ([name], rest)

/-- A name: the tables that lead to it, and its last part. -/
structure Key where
  path : List String
  name : String
deriving DecidableEq, Repr

def takeKey? (text : List Char) : Option (Key × List Char) := do
  let (parts, rest) ← takeParts? (nestingLimit - 1) text
  pure (⟨parts.dropLast, parts.getLastD ""⟩, rest)

/-- This passes over blanks, line breaks and comments. -/
def dropGaps? (inComment : Bool) : List Char → Option (List Char)
  | [] => some []
  | c :: rest =>
      if c = '\n' then dropGaps? false rest
      else if inComment then if isPlain c then dropGaps? true rest else none
      else if c = '#' then dropGaps? true rest
      else if isSpace c then dropGaps? false rest
      else some (c :: rest)

/-- This passes over blanks and a comment, up to the end of the line. -/
def endLine? (text : List Char) : Option (List Char) :=
  let rest := skipSpace text
  let rest := if rest.head? = some '#' then rest.dropWhile isPlain else rest
  match rest with
  | [] => some []
  | '\n' :: rest => some rest
  | _ => none

mutual

/-- This reads a value, within which values may nest less than `depth` deep. -/
def takeValue? : Nat → Nat → List Char → Option (Value × List Char)
  | 0, _, _ => none
  | fuel + 1, depth, text =>
      match text, depth with
      | '"' :: _, _ | '\'' :: _, _ =>
          (takeQuoted? text).map fun (value, rest) => (.text (String.ofList value), rest)
      | '[' :: rest, depth + 1 => do
          let (items, rest) ← takeItems? fuel depth rest
          pure (.array items, rest)
      | '\x7b' :: rest, depth + 1 => do
          match skipSpace rest with
          | '\x7d' :: rest => pure (.table [], rest)
          | rest =>
              let (members, rest) ← takeMembers? fuel depth [] rest
              pure (.table (membersValue members), rest)
      | _, _ => takeScalar? text

/-- This reads the rest of an array. A comma may stand after its last item. -/
def takeItems? : Nat → Nat → List Char → Option (List Value × List Char)
  | 0, _, _ => none
  | fuel + 1, depth, text => do
      match ← dropGaps? false text with
      | ']' :: rest => pure ([], rest)
      | text =>
          let (item, rest) ← takeValue? fuel depth text
          match ← dropGaps? false rest with
          | ',' :: rest =>
              let (items, rest) ← takeItems? fuel depth rest
              pure (item :: items, rest)
          | ']' :: rest => pure ([item], rest)
          | _ => none

/-- This reads the members of a table on one line, and adds them to those before them. -/
def takeMembers? : Nat → Nat → Members → List Char → Option (Members × List Char)
  | 0, _, _, _ => none
  | fuel + 1, depth, members, text => do
      let (key, rest) ← takeKey? text
      let rest ← Text.after? ['='] rest
      let (value, rest) ← takeValue? fuel depth (skipSpace rest)
      let members ← members.assign? key.path key.name value
      match skipSpace rest with
      | ',' :: rest => takeMembers? fuel depth members rest
      | '\x7d' :: rest => pure (members, rest)
      | _ => none

end

/-- What has been read of a document, and the table that names now belong to. -/
structure Draft where
  root : Members
  table : List String
deriving Repr

namespace Draft

def empty : Draft := ⟨[], []⟩

/-- This reads a heading of a table or of an element of a list of tables. -/
def heading? (draft : Draft) (text : List Char) : Option (Draft × List Char) := do
  match text with
  | '[' :: '[' :: rest =>
      let (key, rest) ← takeKey? rest
      let rest ← Text.after? [']', ']'] rest
      let root ← draft.root.append? key.path key.name
      pure (⟨root, key.path ++ [key.name]⟩, ← endLine? rest)
  | '[' :: rest =>
      let (key, rest) ← takeKey? rest
      let rest ← Text.after? [']'] rest
      let root ← draft.root.open? key.path key.name
      pure (⟨root, key.path ++ [key.name]⟩, ← endLine? rest)
  | _ => none

/-- This reads a name and its value. -/
def assignment? (draft : Draft) (text : List Char) : Option (Draft × List Char) := do
  let (key, rest) ← takeKey? text
  let rest ← Text.after? ['='] rest
  let rest := skipSpace rest
  let (value, rest) ← takeValue? (2 * rest.length + 2) (nestingLimit - 1) rest
  let root ← draft.root.assignAt? draft.table key.path key.name value
  pure ({ draft with root }, ← endLine? rest)

/-- This reads statements, each of which ends its line. `fuel` is more than the length of the
text. -/
def run? (draft : Draft) : Nat → List Char → Option Draft
  | 0, _ => none
  | fuel + 1, text =>
      match skipSpace text with
      | [] => some draft
      | '\n' :: rest => run? draft fuel rest
      | '#' :: rest => do
          let rest ← endLine? ('#' :: rest)
          run? draft fuel rest
      | '[' :: rest => do
          let (draft, rest) ← draft.heading? ('[' :: rest)
          run? draft fuel rest
      | text => do
          let (draft, rest) ← draft.assignment? text
          run? draft fuel rest

end Draft

/-- Line breaks of two characters become single ones. -/
def unifyBreaks : List Char → List Char
  | '\r' :: '\n' :: rest => '\n' :: unifyBreaks rest
  | c :: rest => c :: unifyBreaks rest
  | [] => []

/-- A mark of the byte order at the start does not count. -/
def dropMark : List Char → List Char
  | '\ufeff' :: rest => rest
  | rest => rest

/-- The members of the document that a text spells. -/
def read? (text : String) : Option (List (String × Value)) :=
  let text := unifyBreaks (dropMark text.toList)
  (Draft.empty.run? (text.length + 1) text).map fun draft => membersValue draft.root

end HostAudit.Toml
