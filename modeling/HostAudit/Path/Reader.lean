import HostAudit.Text.Blank
import HostAudit.Text.Pieces
import HostAudit.Number.Integer
import HostAudit.Path.Template

/-
This file reads path templates. Quotes shield a closing brace within an expression, and a closing
bracket within a selector.
-/

namespace HostAudit.Path

/-- The quote that is open after a character, when `quote` was open before it. -/
def nextQuote (quote : Option Char) (c : Char) : Option Char :=
  match quote with
  | none => if c = '\'' ∨ c = '"' then some c else none
  | some open_ => if c = open_ then none else some open_

/-- The text before the first `close` outside quotes, and the text after it. -/
def takeUntil (close : Char) : Option Char → List Char → Option (List Char × List Char)
  | _, [] => none
  | quote, c :: rest =>
      if quote.isNone ∧ c = close then some ([], rest)
      else (takeUntil close (nextQuote quote c) rest).map fun (body, after) => (c :: body, after)

/-- A bound of a slice; a blank one is absent. -/
def bound? (text : List Char) : Option (Option Int) :=
  let text := Text.trim text
  if text.isEmpty then some none else (Integer.int64? 10 text).map some

/-- The text between a quote at the start and the same quote at the end. -/
def unquoted? : List Char → Option (List Char)
  | first :: rest =>
      if (first = '\'' ∨ first = '"') ∧ rest.getLast? = some first then some rest.dropLast else none
  | [] => none

/-- The selector that stands between brackets. -/
def selector? (body : List Char) : Except Fault Selector :=
  let body := Text.trim body
  let text := String.ofList body
  if body.head? = some '?' then .error .filter
  else if body = ['*'] then .ok .wildcard
  else match unquoted? body with
    | some name => .ok (.field (String.ofList name))
    | none =>
        match Text.breakOn [':'] body with
        | some (first, last) =>
            match bound? first, bound? last with
            | some first, some last => .ok (.slice first last)
            | _, _ => .error (.invalidSlice text)
        | none =>
            match Integer.int64? 10 body with
            | some position => .ok (.index position)
            | none => .error (.invalidIndex text)

/-- This reads a selector after its opening bracket. -/
def bracket? (text : List Char) : Except Fault (Selector × List Char) :=
  match takeUntil ']' none text with
  | some (body, rest) => (selector? body).map fun selector => (selector, rest)
  | none => .error .unterminatedIndex

def endsName (c : Char) : Bool := c == '.' || c == '['

/-- This reads a name or a star after a dot. There may be neither. -/
def dotted? : List Char → Except Fault (Option Selector × List Char)
  | '*' :: rest => .ok (some .wildcard, rest)
  | text =>
      let name := text.takeWhile (!endsName ·)
      let rest := text.dropWhile (!endsName ·)
      if name.isEmpty then .ok (none, rest)
      else if name.any Text.isBlank then .error (.invalidName (String.ofList name))
      else .ok (some (.field (String.ofList name)), rest)

/-- This reads one step, or a dot that stands for no step. -/
def step? (expression : String) : List Char → Except Fault (Option Step × List Char)
  | '.' :: '.' :: '[' :: rest => do
      let (selector, rest) ← bracket? rest
      pure (some (.descend selector), rest)
  | '.' :: '.' :: rest => do
      match ← dotted? rest with
      | (some selector, rest) => pure (some (.descend selector), rest)
      | (none, _) => .error .descentWithoutName
  | '.' :: rest => do
      let (selector, rest) ← dotted? rest
      pure (selector.map .child, rest)
  | '[' :: rest => do
      let (selector, rest) ← bracket? rest
      pure (some (.child selector), rest)
  | c :: _ => .error (.unrecognized c expression)
  | [] => .ok (none, [])

/-- This reads the steps of an expression; `fuel` is at least the length of the text. -/
def steps? (expression : String) : Nat → List Char → Except Fault (List Step)
  | _, [] => .ok []
  | 0, _ :: _ => .ok []
  | fuel + 1, text => do
      let (step, rest) ← step? expression text
      let steps ← steps? expression fuel rest
      pure (step.toList ++ steps)

/-- This reads an expression from the text between its braces. A dollar in front says nothing. -/
def expression? (body : List Char) : Except Fault (List Step) :=
  let body := Text.trim body
  let text := match body with
    | '$' :: rest => rest
    | rest => rest
  steps? (String.ofList body) text.length text

def byteLength (text : List Char) : Nat := Integer.total (text.map Char.utf8Size)

def isBrace (c : Char) : Bool := c == '{' || c == '}'

/-- This reads the segments of a text that begins at `offset`; `fuel` is at least its length. -/
def segments? : Nat → Nat → List Char → Except Fault (List Segment)
  | _, _, [] => .ok []
  | 0, _, _ :: _ => .ok []
  | fuel + 1, offset, c :: rest =>
      if c = '}' then .error (.unexpectedBrace offset)
      else if c = '{' then
        match takeUntil '}' none rest with
        | none => .error (.unclosedAction offset)
        | some (body, after) => do
            let steps ← expression? body
            let segments ← segments? fuel (offset + byteLength body + 2) after
            pure (.expression steps :: segments)
      else do
        let text := (c :: rest).takeWhile (!isBrace ·)
        let segments ←
          segments? fuel (offset + byteLength text) ((c :: rest).dropWhile (!isBrace ·))
        pure (.text (String.ofList text) :: segments)

/-- This reads a template. -/
def Template.read? (source : String) : Except Malformed Template :=
  match segments? source.length 0 source.toList with
  | .ok segments => .ok ⟨source, segments⟩
  | .error fault => .error ⟨source, fault⟩

end HostAudit.Path
