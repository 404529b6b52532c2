import HostAudit.Number.Integer
import HostAudit.Yaml.Token

/-
This file reads scalars: quoted, plain and in blocks.
-/

namespace HostAudit.Yaml

open Cursor

/-- Blanks within a line, and line breaks after which blanks do not count. -/
structure Gap where
  blanks : List Char
  breaks : List Char
  cursor : Cursor

/-- This reads blanks and line breaks. A tab in front of column `indent` is refused. -/
def takeGap? (indent : Option Nat) : Nat → Gap → Option Gap
  | 0, gap => some gap
  | fuel + 1, gap =>
      match gap.cursor.rest with
      | [] => some gap
      | c :: _ =>
          if isSpace c then
            if gap.breaks.isEmpty then
              takeGap? indent fuel
                { gap with blanks := gap.blanks ++ [c], cursor := gap.cursor.skip 1 }
            else if c = '\t' ∧ indent.any (gap.cursor.column < ·) then none
            else takeGap? indent fuel { gap with cursor := gap.cursor.skip 1 }
          else match gap.cursor.takeBreak? with
            | some (read, cursor) => takeGap? indent fuel ⟨[], gap.breaks ++ [read], cursor⟩
            | none => some gap

/-- The text that a gap within a scalar stands for: one line break is a space, more are one less. -/
def Gap.text (gap : Gap) : List Char :=
  match gap.breaks with
  | [] => gap.blanks
  | ['\n'] => [' ']
  | '\n' :: more => more
  | breaks => breaks

/-- The character of a one-letter escape in double quotes. -/
def escaped? : Char → Option Char
  | '0' => some '\x00'
  | 'a' => some '\x07'
  | 'b' => some '\x08'
  | 't' => some '\t'
  | '\t' => some '\t'
  | 'n' => some '\n'
  | 'v' => some '\x0b'
  | 'f' => some '\x0c'
  | 'r' => some '\r'
  | 'e' => some '\x1b'
  | ' ' => some ' '
  | '"' => some '"'
  | '/' => some '/'
  | '\\' => some '\\'
  | 'N' => some '\x85'
  | '_' => some '\xa0'
  | 'L' => some '\u2028'
  | 'P' => some '\u2029'
  | _ => none

/-- The number of hexadecimal digits that follow the letter of an escape. -/
def codeWidth? : Char → Option Nat
  | 'x' => some 2
  | 'u' => some 4
  | 'U' => some 8
  | _ => none

/-- This reads the character of an escape, after its backslash. -/
def takeEscape? (cursor : Cursor) : Option (Char × Cursor) :=
  match cursor.rest with
  | [] => none
  | letter :: rest =>
      match codeWidth? letter with
      | some width => do
          let digits := rest.take width
          if digits.length < width then none
          let code ← Integer.natural? 16 digits
          if code.isValidChar then some (Char.ofNat code, cursor.skip (1 + width)) else none
      | none => (escaped? letter).map fun c => (c, cursor.skip 1)

/-- This reads the rest of a quoted scalar up to its closing quote. -/
def takeQuoted? (single : Bool) : Nat → Cursor → Option (List Char × Cursor)
  | 0, _ => none
  | fuel + 1, cursor =>
      let andThen (text : List Char) (cursor : Cursor) : Option (List Char × Cursor) :=
        (takeQuoted? single fuel cursor).map fun (more, cursor) => (text ++ more, cursor)
      let gapAnd (first : List Char) (cursor : Cursor) : Option (List Char × Cursor) := do
        let gap ← takeGap? none (cursor.rest.length + 1) ⟨[], first, cursor⟩
        andThen (if first.isEmpty then gap.text else gap.breaks.drop 1) gap.cursor
      if cursor.atDocumentMark then none
      else match cursor.rest with
        | [] => none
        | '\'' :: '\'' :: _ =>
            if single then andThen ['\''] (cursor.skip 2) else andThen ['\''] (cursor.skip 1)
        | '\'' :: _ => if single then some ([], cursor.skip 1) else andThen ['\''] (cursor.skip 1)
        | '"' :: _ => if single then andThen ['"'] (cursor.skip 1) else some ([], cursor.skip 1)
        | '\\' :: rest =>
            if single then andThen ['\\'] (cursor.skip 1)
            else match (cursor.skip 1).takeBreak? with
              | some (read, cursor) => gapAnd [read] cursor
              | none => do
                  if rest.isEmpty then none
                  let (c, cursor) ← takeEscape? (cursor.skip 1)
                  andThen [c] cursor
        | c :: _ =>
            if isSpace c || isBreak c then gapAnd [] cursor
            else andThen [c] (cursor.skip 1)

/-- A colon that ends a plain scalar, or a mark of the flow that does. -/
def endsPlain (flow : Bool) : List Char → Bool
  | ':' :: rest => endsWord rest
  | c :: _ => flow && (c == ',' || c == '[' || c == ']' || c == '\x7b' || c == '\x7d')
  | [] => false

/-- A colon before a mark of the flow, which a plain scalar must not hold there. -/
def hasStrayColon : List Char → Bool
  | ':' :: c :: _ =>
      c == ',' || c == '?' || c == '[' || c == ']' || c == '\x7b' || c == '\x7d'
  | _ => false

/-- This reads the part of a plain scalar up to a blank, a line break or its end. -/
def takePlainWord? (flow : Bool) : Nat → Cursor → Option (List Char × Cursor)
  | 0, cursor => some ([], cursor)
  | fuel + 1, cursor =>
      match cursor.rest with
      | [] => some ([], cursor)
      | c :: _ =>
          if isSpace c || isBreak c then some ([], cursor)
          else if flow && hasStrayColon cursor.rest then none
          else if endsPlain flow cursor.rest then some ([], cursor)
          else (takePlainWord? flow fuel (cursor.skip 1)).map fun (more, cursor) =>
            (c :: more, cursor)

/-- A plain scalar and the place after it; `newLine` tells that a line break was passed over. -/
structure Plain where
  text : List Char
  newLine : Bool
  cursor : Cursor

/-- This reads a plain scalar, whose further lines begin at column `indent` at least. `gap` is what
stands between the text so far and the cursor. -/
def takePlain? (flow : Bool) (indent : Nat) : Nat → Plain → Gap → Option Plain
  | 0, plain, _ => some plain
  | fuel + 1, plain, gap =>
      let cursor := gap.cursor
      let stopped : Plain := { plain with newLine := !gap.breaks.isEmpty, cursor }
      if cursor.atDocumentMark || cursor.rest.head? == some '#' then some stopped
      else do
        let (word, after) ← takePlainWord? flow (cursor.rest.length + 1) cursor
        let plain : Plain :=
          if word.isEmpty then stopped else ⟨plain.text ++ gap.text ++ word, false, after⟩
        match after.rest with
        | [] => some plain
        | c :: _ =>
            if isSpace c || isBreak c then do
              let start : Gap := if word.isEmpty then gap else ⟨[], [], after⟩
              let next ←
                takeGap? (some indent) (after.rest.length + 1) { start with cursor := after }
              if !flow && next.cursor.column < indent then
                some { plain with newLine := !next.breaks.isEmpty, cursor := next.cursor }
              else takePlain? flow indent fuel plain next
            else some plain

/-- How the line breaks at the end of a block are treated. -/
inductive Chomping where
  | strip
  | clip
  | keep
deriving DecidableEq, Repr

/-- This reads the mark that says how the line breaks at the end of a block are treated. -/
def takeChomping? (cursor : Cursor) : Option (Chomping × Cursor) :=
  match cursor.rest with
  | '+' :: _ => some (.keep, cursor.skip 1)
  | '-' :: _ => some (.strip, cursor.skip 1)
  | _ => none

/-- This reads the digit of an indentation, if there is one. It must not be zero. -/
def takeWidth? (cursor : Cursor) : Option (Option Nat × Cursor) :=
  match cursor.rest with
  | '0' :: _ => none
  | c :: _ =>
      if Integer.isDigit c then some (some (c.toNat - '0'.toNat), cursor.skip 1)
      else some (none, cursor)
  | [] => some (none, cursor)

/-- The marks after the sign of a block: an indentation and a chomping, in either order. -/
def takeBlockMarks? (cursor : Cursor) : Option ((Option Nat × Chomping) × Cursor) :=
  match takeChomping? cursor with
  | some (chomping, cursor) => (takeWidth? cursor).map fun (width, cursor) =>
      ((width, chomping), cursor)
  | none => do
      let (width, cursor) ← takeWidth? cursor
      if width.isSome then
        match takeChomping? cursor with
        | some (chomping, cursor) => some ((width, chomping), cursor)
        | none => some ((width, .clip), cursor)
      else some ((none, .clip), cursor)

/-- The empty lines before a line of a block, and the widest of their indentations. -/
structure Margin where
  breaks : List Char
  widest : Nat
  cursor : Cursor

/-- This reads indentation and empty lines. With no indentation given, all spaces count. A tab that
stands where a space is expected is refused. -/
def takeMargin? (indent : Option Nat) : Nat → Margin → Option Margin
  | 0, margin => some margin
  | fuel + 1, margin =>
      let spaces := (margin.cursor.takeWhile (· == ' ')).1.length
      let wanted := match indent with
        | some indent => min spaces (indent - margin.cursor.column)
        | none => spaces
      let cursor := margin.cursor.skip wanted
      let widest := max margin.widest cursor.column
      let short := match indent with
        | some indent => cursor.column < indent
        | none => true
      if short && cursor.rest.head? == some '\t' then none
      else match cursor.takeBreak? with
        | some (read, cursor) => takeMargin? indent fuel ⟨margin.breaks ++ [read], widest, cursor⟩
        | none => some ⟨margin.breaks, widest, cursor⟩

/-- What has been read of a block: its text, the break that ends its last line, the empty lines
after that, and whether its last line begins with a blank. -/
structure Block where
  text : List Char
  lastBreak : List Char
  empties : List Char
  blankLine : Bool
  cursor : Cursor

/-- This reads the lines of a block, which begin at column `indent`. -/
def takeLines? (literal : Bool) (indent : Nat) : Nat → Block → Option Block
  | 0, block => some block
  | fuel + 1, block =>
      match block.cursor.rest with
      | [] => some block
      | c :: _ =>
          if block.cursor.column ≠ indent then some block
          else do
            let blank := isSpace c
            let joint :=
              if !literal && block.lastBreak == ['\n'] && !block.blankLine && !blank then
                if block.empties.isEmpty then [' '] else []
              else block.lastBreak
            let (line, cursor) := block.cursor.takeWhile (!isBreak ·)
            let (lastBreak, cursor) := match cursor.takeBreak? with
              | some (read, cursor) => ([read], cursor)
              | none => ([], cursor)
            let margin ← takeMargin? (some indent) (cursor.rest.length + 1) ⟨[], 0, cursor⟩
            takeLines? literal indent fuel
              ⟨block.text ++ joint ++ block.empties ++ line, lastBreak, margin.breaks, blank,
                margin.cursor⟩

/-- This reads a block after its sign. `parent` is the column of the surrounding block, if any. -/
def takeBlock? (literal : Bool) (parent : Option Nat) (cursor : Cursor) :
    Option (List Char × Cursor) := do
  let ((width, chomping), cursor) ← takeBlockMarks? cursor
  let cursor ← cursor.finishLine?
  let given := width.map fun width => parent.getD 0 + width
  let margin ← takeMargin? given (cursor.rest.length + 1) ⟨[], 0, cursor⟩
  let least := match parent with
    | some parent => parent + 1
    | none => 0
  let indent := given.getD (max 1 (max margin.widest least))
  let block ← takeLines? literal indent (margin.cursor.rest.length + 1)
    ⟨[], [], margin.breaks, false, margin.cursor⟩
  let ending := match chomping with
    | .strip => []
    | .clip => block.lastBreak
    | .keep => block.lastBreak ++ block.empties
  pure (block.text ++ ending, block.cursor)

end HostAudit.Yaml
