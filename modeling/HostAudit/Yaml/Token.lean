/-
This file holds the tokens of YAML text, and a cursor that knows its line and column.
-/

namespace HostAudit.Yaml

/-- The ways to write a scalar. -/
inductive Style where
  | plain
  | singleQuoted
  | doubleQuoted
  | literal
  | folded
deriving DecidableEq, Repr

inductive Token where
  | version (major minor : Nat)
  | tagDirective (handle start : String)
  | documentStart
  | documentEnd
  | blockSequenceStart
  | blockMappingStart
  | blockEnd
  | flowSequenceStart
  | flowSequenceEnd
  | flowMappingStart
  | flowMappingEnd
  | blockEntry
  | flowEntry
  | key
  | value
  | alias (name : String)
  | anchor (name : String)
  | tag (handle suffix : String)
  | scalar (style : Style) (text : String)
deriving DecidableEq, Repr

/-- The text that is left to read, and where it begins. -/
structure Cursor where
  rest : List Char
  index : Nat
  line : Nat
  column : Nat
deriving Repr

/-- A character that ends a line. -/
def isBreak (c : Char) : Bool :=
  c == '\n' || c == '\r' || c == '\x85' || c == '\u2028' || c == '\u2029'

def isSpace (c : Char) : Bool := c == ' ' || c == '\t'

/-- A character of names: an ASCII letter or digit, a line or a hyphen. -/
def isName (c : Char) : Bool := c.isAlphanum || c == '_' || c == '-'

/-- A text may hold only these characters. -/
def isAllowed (c : Char) : Bool :=
  let code := c.val
  code == 0x9 || code == 0xA || code == 0xD || (0x20 ≤ code && code ≤ 0x7E) || code == 0x85 ||
    (0xA0 ≤ code && code ≤ 0xD7FF) || (0xE000 ≤ code && code ≤ 0xFFFD) || 0x10000 ≤ code

/-- The text ends here, or with a blank or a line break. -/
def endsWord : List Char → Bool
  | [] => true
  | c :: _ => isSpace c || isBreak c

namespace Cursor

def ofText (text : List Char) : Cursor := ⟨text, 0, 0, 0⟩

/-- This passes over characters of one line. -/
def skip (cursor : Cursor) (count : Nat) : Cursor :=
  { cursor with
    rest := cursor.rest.drop count
    index := cursor.index + count
    column := cursor.column + count }

/-- This reads the longest run of characters of one line that satisfy `keep`. -/
def takeWhile (cursor : Cursor) (keep : Char → Bool) : List Char × Cursor :=
  let taken := cursor.rest.takeWhile keep
  (taken, cursor.skip taken.length)

def skipWhile (cursor : Cursor) (keep : Char → Bool) : Cursor := (cursor.takeWhile keep).2

/-- This reads a line break. All breaks but the two separators read as a line feed. -/
def takeBreak? (cursor : Cursor) : Option (Char × Cursor) :=
  match cursor.rest with
  | '\r' :: '\n' :: rest => some ('\n', ⟨rest, cursor.index + 2, cursor.line + 1, 0⟩)
  | c :: rest =>
      if isBreak c then
        let read := if c = '\u2028' ∨ c = '\u2029' then c else '\n'
        some (read, ⟨rest, cursor.index + 1, cursor.line + 1, 0⟩)
      else none
  | [] => none

/-- This passes over a comment, up to the end of its line. -/
def skipComment (cursor : Cursor) : Cursor :=
  match cursor.rest with
  | '#' :: _ => cursor.skipWhile (!isBreak ·)
  | _ => cursor

/-- This passes over the blanks and the comment at the end of a line, and its break. There must be
nothing else. -/
def finishLine? (cursor : Cursor) : Option Cursor :=
  let cursor := (cursor.skipWhile isSpace).skipComment
  match cursor.rest with
  | [] => some cursor
  | _ => cursor.takeBreak?.map Prod.snd

/-- A line begins with a mark that starts or ends a document. -/
def atDocumentMark (cursor : Cursor) : Bool :=
  cursor.column == 0 && match cursor.rest with
    | '-' :: '-' :: '-' :: rest => endsWord rest
    | '.' :: '.' :: '.' :: rest => endsWord rest
    | _ => false

end Cursor

end HostAudit.Yaml
