import HostAudit.Number.Integer
import HostAudit.Text.Pieces

/-
This file writes and reads texts between quotes. Double quotes allow escapes and single ones do not;
three of either kind allow line breaks.
-/

namespace HostAudit.Toml

inductive Quoting where
  | basic
  | literal
  | basicBlock
  | literalBlock
deriving DecidableEq, Repr

def isControl (c : Char) : Bool := c < ' ' || c == '\x7f'

/-- A character that stands for itself in a line. -/
def isPlain (c : Char) : Bool := c == '\t' || !isControl c

/-- The length of the longest run of a character, when one of length `run` is under way. -/
def longestRun (c : Char) (run : Nat) : List Char → Nat
  | [] => run
  | d :: rest => if d = c then longestRun c (run + 1) rest else max run (longestRun c 0 rest)

/-- The text has control characters other than tabs and line breaks. -/
def needsCodes (text : List Char) : Bool := text.any fun c => !isPlain c && c != '\n'

/-- The plainest way to quote a text. -/
def Quoting.ofText (text : List Char) : Quoting :=
  let doubles := longestRun '"' 0 text
  let singles := longestRun '\'' 0 text
  let codes := needsCodes text
  let slashes := text.contains '\\'
  let breaks := text.contains '\n'
  if !codes && !slashes && doubles == 0 && !breaks then basic
  else if !codes && singles == 0 && !breaks then literal
  else if !codes && !slashes && doubles ≤ 2 then basicBlock
  else if !codes && singles ≤ 2 then literalBlock
  else if breaks then basicBlock
  else basic

/-- The plainest way to quote a name, which has no line breaks. -/
def Quoting.ofName (name : List Char) : Quoting :=
  let codes := needsCodes name || name.contains '\n'
  if !codes && !name.contains '\\' && !name.contains '"' then basic
  else if !codes && !name.contains '\'' then literal
  else basic

/-- A code in four digits. -/
def codeChars (c : Char) : List Char :=
  let digits := (Integer.hexChars c.toNat).map Char.toUpper
  '\\' :: 'u' :: List.replicate (4 - digits.length) '0' ++ digits

/-- A character between double quotes. -/
def escape (c : Char) : List Char :=
  match c with
  | '"' => ['\\', '"']
  | '\\' => ['\\', '\\']
  | '\x08' => ['\\', 'b']
  | '\t' => ['\\', 't']
  | '\n' => ['\\', 'n']
  | '\x0c' => ['\\', 'f']
  | '\r' => ['\\', 'r']
  | c => if isControl c then codeChars c else [c]

/-- A text between triple double quotes, after `run` double quotes that stand for themselves. No
more than two of them do. -/
def escapeBlock (run : Nat) : List Char → List Char
  | [] => []
  | c :: rest =>
      if c = '"' then
        if run < 2 then '"' :: escapeBlock (run + 1) rest else '\\' :: '"' :: escapeBlock 0 rest
      else if c = '\n' then '\n' :: escapeBlock 0 rest
      else escape c ++ escapeBlock 0 rest

/-- The start of a block: a text with line breaks begins on a line of its own. -/
def blockStart (text : List Char) : List Char := if text.contains '\n' then ['\n'] else []

def quotedAs (quoting : Quoting) (text : List Char) : List Char :=
  match quoting with
  | .basic => '"' :: text.flatMap escape ++ ['"']
  | .literal => '\'' :: text ++ ['\'']
  | .basicBlock =>
      ['"', '"', '"'] ++ blockStart text ++ escapeBlock 0 text ++ ['"', '"', '"']
  | .literalBlock => ['\'', '\'', '\''] ++ blockStart text ++ text ++ ['\'', '\'', '\'']

def quoted (text : List Char) : List Char := quotedAs (.ofText text) text

/-- The meaning of a one-letter escape. -/
def escaped? : Char → Option Char
  | 'b' => some '\x08'
  | 't' => some '\t'
  | 'n' => some '\n'
  | 'f' => some '\x0c'
  | 'r' => some '\r'
  | '"' => some '"'
  | '\\' => some '\\'
  | _ => none

/-- The character of a code in hexadecimal. -/
def coded? (digits : List Char) : Option Char :=
  ((Integer.natural? 16 digits).filter fun code => code.isValidChar).map Char.ofNat

/-- This reads an escape after its backslash. -/
def takeEscape? : List Char → Option (Char × List Char)
  | 'u' :: rest =>
      if rest.length < 4 then none else (coded? (rest.take 4)).map fun c => (c, rest.drop 4)
  | 'U' :: rest =>
      if rest.length < 8 then none else (coded? (rest.take 8)).map fun c => (c, rest.drop 8)
  | letter :: rest => (escaped? letter).map fun c => (c, rest)
  | [] => none

def isSpace (c : Char) : Bool := c == ' ' || c == '\t'

/-- What follows an escaped end of line: the blanks after it do not count. -/
def afterLineEnd? (text : List Char) : Option (List Char) :=
  match text.dropWhile isSpace with
  | '\n' :: rest => some (rest.dropWhile fun c => isSpace c || c == '\n')
  | _ => none

/-- The text between double quotes; a block may have line breaks. `fuel` is at least its length. -/
def unescape? (block : Bool) : Nat → List Char → Option (List Char)
  | _, [] => some []
  | 0, _ :: _ => none
  | fuel + 1, c :: rest =>
      if c = '\\' then
        match if block then afterLineEnd? rest else none with
        | some rest => unescape? block fuel rest
        | none => do
            let (c, rest) ← takeEscape? rest
            let text ← unescape? block fuel rest
            pure (c :: text)
      else if isPlain c || (block && c == '\n') then (unescape? block fuel rest).map (c :: ·)
      else none

/-- This divides a text at the first quote, but not at one that a backslash shields. -/
def takeLine? (quote : Char) (escapes : Bool) : List Char → Option (List Char × List Char)
  | [] => none
  | [c] => if c = quote then some ([], []) else none
  | c :: d :: rest =>
      if c = quote then some ([], d :: rest)
      else if escapes && c == '\\' then
        (takeLine? quote escapes rest).map fun (body, after) => (c :: d :: body, after)
      else (takeLine? quote escapes (d :: rest)).map fun (body, after) => (c :: body, after)

/-- Three quotes close a block. Up to two more before them belong to its text. -/
def closing? (quote : Char) (text : List Char) : Option (List Char × List Char) :=
  (Text.after? [quote, quote, quote] text).map fun after =>
    let more := min 2 (after.takeWhile (· = quote)).length
    (after.take more, after.drop more)

/-- This divides a text at three quotes, but not at ones that a backslash shields. -/
def takeBlock? (quote : Char) (escapes : Bool) : List Char → Option (List Char × List Char)
  | [] => none
  | [_] => none
  | c :: d :: rest =>
      match closing? quote (c :: d :: rest) with
      | some closed => some closed
      | none =>
          if escapes && c == '\\' then
            (takeBlock? quote escapes rest).map fun (body, after) => (c :: d :: body, after)
          else (takeBlock? quote escapes (d :: rest)).map fun (body, after) => (c :: body, after)

/-- The text between single quotes stands as it is. -/
def verbatim? (block : Bool) (text : List Char) : Option (List Char) :=
  if text.all fun c => isPlain c || (block && c == '\n') then some text else none

/-- A line break at the start of a block does not count. -/
def dropBreak : List Char → List Char
  | '\n' :: rest => rest
  | rest => rest

/-- This reads a text between quotes, of which there is one at each end. -/
def takeQuotedLine? (text : List Char) : Option (List Char × List Char) :=
  match text with
  | '"' :: rest => do
      let (body, after) ← takeLine? '"' true rest
      let value ← unescape? false body.length body
      pure (value, after)
  | '\'' :: rest => do
      let (body, after) ← takeLine? '\'' false rest
      let value ← verbatim? false body
      pure (value, after)
  | _ => none

/-- This reads a text between quotes of any kind. -/
def takeQuoted? (text : List Char) : Option (List Char × List Char) :=
  match text with
  | '"' :: '"' :: '"' :: rest => do
      let (body, after) ← takeBlock? '"' true (dropBreak rest)
      let value ← unescape? true body.length body
      pure (value, after)
  | '\'' :: '\'' :: '\'' :: rest => do
      let (body, after) ← takeBlock? '\'' false (dropBreak rest)
      let value ← verbatim? true body
      pure (value, after)
  | text => takeQuotedLine? text

end HostAudit.Toml
