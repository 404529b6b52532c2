import HostAudit.Script.Syntax

/-
This file reads probe scripts. A script is read a line at a time, where a line goes on as long as
a construct in it is open, because the commands of a line run before the next line is read.
-/

namespace HostAudit.Script

/-- The rest of a script and the number of its line. Some lines below it are taken already; they
count when the line ends. -/
structure Cursor where
  rest : List Char
  line : Nat
  taken : Nat := 0

/-- A script that cannot be read, with the line where this shows. -/
structure SyntaxFault where
  line : Nat
  message : String

abbrev Reading := StateT Cursor (Except SyntaxFault)

namespace Reading

def peek : Reading (List Char) := return (← get).rest

def skip (count : Nat) : Reading Unit := modify fun cursor =>
  let ends := (cursor.rest.take count).count '\n'
  let rest := cursor.rest.drop count
  if ends = 0 then { cursor with rest := rest }
  else ⟨rest, cursor.line + ends + cursor.taken, 0⟩

def fault {A : Type} (message : String) : Reading A := do
  throw ⟨(← get).line, "Syntax error: " ++ message⟩

/-- This refuses what stands next; a line end stands on the line behind it. -/
def refuse {A : Type} (message : String) : Reading A := do
  if (← peek).head? == some '\n' then skip 1
  fault message

end Reading

open Reading

/-- A character that ends a bare word. -/
def isBoundary (c : Char) : Bool := " \t\n;&|()<>".toList.contains c

def isNameStart (c : Char) : Bool := c.isAlpha || c == '_'

def isNamePart (c : Char) : Bool := c.isAlphanum || c == '_'

/-- A name at the front of a text; it is empty if there is none. -/
def nameAt (text : List Char) : List Char :=
  if text.head?.any isNameStart then text.takeWhile isNamePart else []

/-- The number of blanks, escaped line ends and characters of a comment at the front. -/
def blankCount : List Char → Nat
  | ' ' :: rest => blankCount rest + 1
  | '\t' :: rest => blankCount rest + 1
  | '\\' :: '\n' :: rest => blankCount rest + 2
  | '#' :: rest => (rest.takeWhile (· != '\n')).length + 1
  | _ => 0

def skipBlanks : Reading Unit := do skip (blankCount (← peek))

/-- This skips blanks, comments and line ends. -/
def skipSpaces : Nat → Reading Unit
  | 0 => pure ()
  | fuel + 1 => do
      skipBlanks
      if (← peek).head? == some '\n' then
        skip 1
        skipSpaces fuel

def skipSpace : Reading Unit := do skipSpaces ((← peek).length + 1)

def reserved : List String :=
  ["if", "then", "else", "elif", "fi", "while", "until", "for", "do", "done", "case", "esac",
    "in", "\x7b", "\x7d", "!"]

/-- The bare word at the front, as it is written. -/
def spelled (text : List Char) : String := String.ofList (text.takeWhile (!isBoundary ·))

def operators : List String :=
  ["&&", "||", ";;", "<<-", "<<", ">>", "<&", ">&", "<>", ">|", ";", "&", "|", "(", ")", "<", ">"]

def operator? (text : List Char) : Option String :=
  operators.find? fun operator => operator.toList.isPrefixOf text

/-- How a message names what stands at the front. -/
def named (text : List Char) : String :=
  match text with
  | [] => "end of file"
  | '\n' :: _ => "newline"
  | _ =>
      match operator? text with
      | some operator =>
          if operator.startsWith "<" || operator.startsWith ">" then "redirection"
          else "\"" ++ operator ++ "\""
      | none =>
          if reserved.contains (spelled text) then "\"" ++ spelled text ++ "\"" else "word"

def unexpected {A : Type} : Reading A := do
  refuse (named (← peek) ++ " unexpected")

/-- This skips a reserved word or operator that has to come next. -/
def expect (token : String) : Reading Unit := do
  let text ← peek
  let found := if reserved.contains token then spelled text == token
    else token.toList.isPrefixOf text
  if found then skip token.length
  else refuse (named text ++ " unexpected (expecting \"" ++ token ++ "\")")

/-- Where pieces stand: it decides which characters are special and where the pieces end. -/
inductive Place where
  | bare
  | braced
  | double
  | doubleBraced
  | here
  | arithmetic (depth : Nat)

def Place.isQuoted : Place → Bool
  | .bare | .braced => false
  | _ => true

def Place.ends (place : Place) (text : List Char) : Bool :=
  match place, text with
  | .bare, c :: _ => isBoundary c
  | .braced, '\x7d' :: _ => true
  | .doubleBraced, '\x7d' :: _ => true
  | .double, '"' :: _ => true
  | .arithmetic 0, ')' :: ')' :: _ => true
  | _, _ => false

/-- What is missing when the text ends here. -/
def Place.missing? : Place → Option String
  | .bare | .here => none
  | .double | .doubleBraced => some "Unterminated quoted string"
  | .braced => some "Missing '\x7d'"
  | .arithmetic _ => some "Missing '))'"

/-- A backslash takes the meaning of these characters away. -/
def Place.escapes (place : Place) (c : Char) : Bool :=
  match place with
  | .here => "$\x60\\".toList.contains c
  | .doubleBraced => "$\x60\"\\\x7d".toList.contains c
  | _ => "$\x60\"\\".toList.contains c

def isPlain (place : Place) (c : Char) : Bool :=
  !"\\'\"$\x60()\x7d".toList.contains c && !(place matches .bare && isBoundary c)

/-- This puts text in front of pieces. -/
def consText (octets : List Char) (quoted : Bool) : Word → Word
  | .text others same :: rest =>
      if quoted = same then .text (octets ++ others) quoted :: rest
      else .text octets quoted :: .text others same :: rest
  | rest => .text octets quoted :: rest

/-- The text up to a closing backquote, without the backslashes that protect characters in it, and
the number of characters up to the backquote. -/
def backquoted : List Char → Option (List Char × Nat)
  | [] => none
  | '\x60' :: _ => some ([], 0)
  | '\\' :: c :: rest =>
      (backquoted rest).map fun (text, count) =>
        (if "$\x60\\".toList.contains c then c :: text else '\\' :: c :: text, count + 2)
  | c :: rest => (backquoted rest).map fun (text, count) => (c :: text, count + 1)

/-- The lines up to the delimiter, and the text after the delimiter's line. -/
def hereLines (delimiter : List Char) (dropTabs : Bool) : Nat → List Char → List Char × List Char
  | 0, text => (text, [])
  | _ + 1, [] => ([], [])
  | fuel + 1, text =>
      let written := text.takeWhile (· != '\n')
      let behind := text.drop written.length
      let line := if dropTabs then written.dropWhile (· == '\t') else written
      if line = delimiter then ([], behind.drop 1)
      else
        let (lines, rest) := hereLines delimiter dropTabs fuel (behind.drop 1)
        (line ++ behind.take 1 ++ lines, rest)

/-- The characters of a word as they are written, without its quotes, and whether it had some. -/
def unquoted : Word → List Char × Bool
  | [] => ([], false)
  | .text octets quoted :: rest =>
      let (more, anyQuoted) := unquoted rest
      (octets ++ more, quoted || anyQuoted)
  | _ :: rest => unquoted rest

/-- The reserved words that may follow a list of commands. -/
def closers : List String :=
  ["then", "else", "elif", "fi", "do", "done", "esac", "\x7d"]

def endsList (text : List Char) : Bool :=
  text.isEmpty || text.head? == some ')' || ";;".toList.isPrefixOf text ||
    closers.contains (spelled text)

def directions : List (String × Direction) :=
  [(">>", .append), ("<&", .duplicate), (">&", .duplicate), ("<>", .readWrite), (">|", .write),
    ("<", .read), (">", .write)]

def fallback? : Char → Option Fallback
  | '-' => some .value
  | '=' => some .assigned
  | '?' => some .required
  | '+' => some .present
  | _ => none

/-- The part of a parameter's use that stands before its word: the kind and its length. -/
def useAt (text : List Char) : Option ((Word → Use) × Nat) :=
  match text with
  | '\x7d' :: _ => some (fun _ => .plain, 0)
  | '%' :: '%' :: _ => some (.trim .longestSuffix, 2)
  | '%' :: _ => some (.trim .shortestSuffix, 1)
  | '#' :: '#' :: _ => some (.trim .longestPrefix, 2)
  | '#' :: _ => some (.trim .shortestPrefix, 1)
  | ':' :: c :: _ => (fallback? c).map fun kind => (.fallback kind true, 2)
  | c :: _ => (fallback? c).map fun kind => (.fallback kind false, 1)
  | [] => none

def parameterAt (text : List Char) : List Char :=
  match text with
  | [] => []
  | c :: _ =>
      if isNameStart c then nameAt text
      else if c.isDigit then text.takeWhile Char.isDigit
      else if "@*#?$!-".toList.contains c then [c]
      else []

mutual

/-- The pieces up to the end of their place. -/
def pieces : Nat → Place → Reading Word
  | 0, _ => fault "too deeply nested"
  | fuel + 1, place => do
      let text ← peek
      if place.ends text then return []
      match text with
      | [] =>
          match place.missing? with
          | none => return []
          | some missing => fault missing
      | '\\' :: '\n' :: _ => skip 2; pieces fuel place
      | ['\\'] => skip 1; return consText ['\\'] place.isQuoted (← pieces fuel place)
      | '\\' :: c :: _ =>
          if !place.isQuoted || place.escapes c then
            skip 2
            return consText [c] true (← pieces fuel place)
          else
            skip 1
            return consText ['\\'] true (← pieces fuel place)
      | '\'' :: rest =>
          if place.isQuoted then
            skip 1
            return consText ['\''] true (← pieces fuel place)
          else
            let inner := rest.takeWhile (· != '\'')
            if inner.length = rest.length then fault "Unterminated quoted string"
            skip (inner.length + 2)
            return consText inner true (← pieces fuel place)
      | '"' :: _ =>
          match place with
          | .here | .arithmetic _ =>
              skip 1
              return consText ['"'] true (← pieces fuel place)
          | _ =>
              skip 1
              let inner ← pieces fuel .double
              skip 1
              let rest ← pieces fuel place
              return if inner.isEmpty then consText [] true rest else inner ++ rest
      | '\x60' :: rest =>
          match backquoted rest with
          | none => fault "EOF in backquote substitution"
          | some (inner, count) =>
              skip (count + 2)
              let outer ← get
              set (Cursor.mk inner 1 0)
              let body ← commands fuel true
              if !(← peek).isEmpty then unexpected
              set outer
              return .output body place.isQuoted :: (← pieces fuel place)
      | '$' :: _ =>
          skip 1
          let piece ← dollar fuel place.isQuoted
          return piece :: (← pieces fuel place)
      | c :: _ =>
          let plain := text.takeWhile (isPlain place)
          if plain.isEmpty then
            skip 1
            let place := match place, c with
              | .arithmetic depth, '(' => .arithmetic (depth + 1)
              | .arithmetic depth, ')' => .arithmetic (depth - 1)
              | place, _ => place
            return consText [c] place.isQuoted (← pieces fuel place)
          else
            skip plain.length
            return consText plain place.isQuoted (← pieces fuel place)

/-- What a dollar sign introduces. -/
def dollar : Nat → Bool → Reading Piece
  | 0, _ => fault "too deeply nested"
  | fuel + 1, quoted => do
      let text ← peek
      match text with
      | '(' :: '(' :: _ =>
          skip 2
          let expression ← pieces fuel (.arithmetic 0)
          skip 2
          return .arithmetic expression quoted
      | '(' :: _ =>
          skip 1
          let body ← commands fuel true
          expect ")"
          return .output body quoted
      | '\x7b' :: '#' :: rest =>
          let name := parameterAt rest
          if name.isEmpty || (rest.drop name.length).head? != some '\x7d' then
            skip 1
            braced fuel quoted
          else
            skip (name.length + 3)
            return .parameter name .length quoted
      | '\x7b' :: _ =>
          skip 1
          braced fuel quoted
      | c :: _ =>
          let name := if c.isDigit then [c] else parameterAt text
          skip name.length
          return if name.isEmpty then .text ['$'] quoted else .parameter name .plain quoted
      | [] => return .text ['$'] quoted

/-- A parameter in braces, from behind the opening brace. -/
def braced : Nat → Bool → Reading Piece
  | 0, _ => fault "too deeply nested"
  | fuel + 1, quoted => do
      let name := parameterAt (← peek)
      skip name.length
      let text ← peek
      match if name.isEmpty then none else useAt text with
      | none =>
          let place := if quoted then .doubleBraced else .braced
          let signs := if name.isEmpty then 0 else if text.head? == some ':' then 2 else 1
          skip signs
          let _ ← pieces fuel place
          skip 1
          return .parameter name .malformed quoted
      | some (use, count) =>
          skip count
          let place := match use [] with
            | .trim .. => .braced
            | _ => if quoted then .doubleBraced else .braced
          let word ← pieces fuel place
          skip 1
          return .parameter name (use word) quoted

/-- A redirection, if one stands next. -/
def redirection? : Nat → Reading (Option Redirection)
  | 0 => fault "too deeply nested"
  | fuel + 1 => do
      let text ← peek
      let digits := text.takeWhile Char.isDigit
      let rest := text.drop digits.length
      if !(rest.head? == some '<' || rest.head? == some '>') || digits.length > 1 then return none
      skip digits.length
      let descriptor := match digits with
        | [digit] => digit.toNat - 48
        | _ => if rest.head? == some '<' then 0 else 1
      if "<<".toList.isPrefixOf rest then
        let dropTabs := "<<-".toList.isPrefixOf rest
        skip (if dropTabs then 3 else 2)
        skipBlanks
        let (delimiter, literal) := unquoted (← word fuel)
        let after ← peek
        let current := after.takeWhile (· != '\n')
        let below := (after.drop current.length).drop 1
        let (lines, others) := hereLines delimiter dropTabs (below.length + 1) below
        let outer ← get
        let body ← if literal then pure [.text lines true]
          else do
            set (Cursor.mk lines (outer.line + outer.taken + 1) 0)
            pieces fuel .here
        let taken := below.count '\n' - others.count '\n'
        set (Cursor.mk (current ++ '\n' :: others) outer.line (outer.taken + taken))
        return some (.mk descriptor .here body)
      match directions.find? fun (spelling, _) => spelling.toList.isPrefixOf rest with
      | none => unexpected
      | some (spelling, direction) =>
          skip spelling.length
          skipBlanks
          return some (.mk descriptor direction (← word fuel))

/-- A word that has to come next. -/
def word : Nat → Reading Word
  | 0 => fault "too deeply nested"
  | fuel + 1 => do
      if (← peek).head?.all isBoundary then unexpected
      let read ← pieces fuel .bare
      return if read.isEmpty then [.text [] false] else read

def redirections : Nat → Reading (List Redirection)
  | 0 => fault "too deeply nested"
  | fuel + 1 => do
      skipBlanks
      match ← redirection? fuel with
      | none => return []
      | some redirection => return redirection :: (← redirections fuel)

/-- The assignments, words and redirections of a simple command, and the line of the first one's
end. -/
def parts : Nat → Bool → Reading (Nat × List (List Char × Word) × List Word × List Redirection)
  | 0, _ => fault "too deeply nested"
  | fuel + 1, leading => do
      skipBlanks
      let start := (← get).line
      if let some redirection ← redirection? fuel then
        let (_, assignments, words, others) ← parts fuel leading
        return (start, assignments, words, redirection :: others)
      let text ← peek
      if text.head?.all isBoundary then return (start, [], [], [])
      let name := nameAt text
      if leading && !name.isEmpty && (text.drop name.length).head? == some '=' then
        skip (name.length + 1)
        let value ← pieces fuel .bare
        let line := (← get).line
        let (_, assignments, words, others) ← parts fuel true
        return (line, (name, value) :: assignments, words, others)
      let first ← word fuel
      let line := (← get).line
      let (_, assignments, words, others) ← parts fuel false
      return (line, assignments, first :: words, others)

/-- The words up to the end of a command. -/
def words : Nat → Reading (List Word)
  | 0 => fault "too deeply nested"
  | fuel + 1 => do
      skipBlanks
      if (← peek).head?.all isBoundary then return []
      let first ← word fuel
      return first :: (← words fuel)

/-- The alternatives of a pattern, up to the closing parenthesis. -/
def patterns : Nat → Reading (List Word)
  | 0 => fault "too deeply nested"
  | fuel + 1 => do
      skipBlanks
      let first ← word fuel
      skipBlanks
      if (← peek).head? == some '|' then
        skip 1
        return first :: (← patterns fuel)
      expect ")"
      return [first]

def cases : Nat → Reading (List (List Word × Command))
  | 0 => fault "too deeply nested"
  | fuel + 1 => do
      skipSpace
      if spelled (← peek) == "esac" then return []
      if (← peek).isEmpty then expect ")"
      if (← peek).head? == some '(' then skip 1
      let alternatives ← patterns fuel
      let body ← commands fuel true
      if ";;".toList.isPrefixOf (← peek) then
        skip 2
        return (alternatives, body) :: (← cases fuel)
      return [(alternatives, body)]

/-- What follows the condition of a conditional. -/
def branches : Nat → Reading Command
  | 0 => fault "too deeply nested"
  | fuel + 1 => do
      let condition ← commands fuel false
      expect "then"
      let body ← commands fuel false
      match spelled (← peek) with
      | "elif" => skip 4; return .conditional condition body (← branches fuel)
      | "else" =>
          skip 4
          let other ← commands fuel false
          expect "fi"
          return .conditional condition body other
      | _ => expect "fi"; return .conditional condition body .nothing

/-- A command that a reserved word or a parenthesis introduces. -/
def compound? : Nat → Reading (Option Command)
  | 0 => fault "too deeply nested"
  | fuel + 1 => do
      let text ← peek
      if text.head? == some '(' then
        skip 1
        let body ← commands fuel false
        expect ")"
        return some (.subshell body)
      match spelled text with
      | "\x7b" =>
          skip 1
          let body ← commands fuel false
          expect "\x7d"
          return some body
      | "if" => skip 2; return some (← branches fuel)
      | "while" | "until" =>
          skip 5
          let condition ← commands fuel false
          expect "do"
          let body ← commands fuel false
          expect "done"
          return some (.loop condition (spelled text == "while") body)
      | "for" =>
          let line := (← get).line
          skip 3
          skipBlanks
          let name := nameAt (← peek)
          if name.isEmpty then refuse "Bad for loop variable"
          skip name.length
          skipSpace
          let listed ← if spelled (← peek) == "in" then do
              skip 2
              pure (some (← words fuel))
            else pure none
          skipBlanks
          if (← peek).head? == some ';' then skip 1
          skipSpace
          expect "do"
          let body ← commands fuel false
          expect "done"
          return some (.forEach line name listed body)
      | "case" =>
          let line := (← get).line
          skip 4
          skipBlanks
          let subject ← word fuel
          skipSpace
          expect "in"
          let alternatives ← cases fuel
          expect "esac"
          return some (.select line subject alternatives)
      | spelling => if reserved.contains spelling then unexpected else return none

def command : Nat → Reading Command
  | 0 => fault "too deeply nested"
  | fuel + 1 => do
      skipBlanks
      let line := (← get).line
      match ← compound? fuel with
      | some body =>
          match ← redirections fuel with
          | [] => return body
          | others => return .redirected line body others
      | none =>
          let text ← peek
          let name := nameAt text
          let behind := (text.drop name.length).dropWhile (· == ' ')
          if !name.isEmpty && "()".toList.isPrefixOf behind then
            skip (text.length - behind.length + 2)
            skipSpace
            return .define name (← command fuel)
          match ← parts fuel true with
          | (_, [], [], []) => unexpected
          | (line, assignments, words, others) => return .simple line assignments words others

def pipeline : Nat → Reading (List Command)
  | 0 => fault "too deeply nested"
  | fuel + 1 => do
      let first ← command fuel
      skipBlanks
      let text ← peek
      if text.head? == some '|' && !"||".toList.isPrefixOf text then
        skip 1
        skipSpace
        return first :: (← pipeline fuel)
      return [first]

/-- One command of a list: pipelines joined by `&&` and `||`, of which the first is read already. -/
def joined : Nat → Command → Reading Command
  | 0, _ => fault "too deeply nested"
  | fuel + 1, first => do
      skipBlanks
      let text ← peek
      let both := "&&".toList.isPrefixOf text
      if !both && !"||".toList.isPrefixOf text then return first
      skip 2
      skipSpace
      let second ← stage fuel
      joined fuel (if both then .both first second else .either first second)

/-- A pipeline with its negation. -/
def stage : Nat → Reading Command
  | 0 => fault "too deeply nested"
  | fuel + 1 => do
      skipBlanks
      if spelled (← peek) == "!" then
        skip 1
        return .negated (← stage fuel)
      match ← pipeline fuel with
      | [only] => return only
      | stages => return .pipeline stages

/-- The commands up to a word or sign that ends a list, and there may have to be one. -/
def commands : Nat → Bool → Reading Command
  | 0, _ => fault "too deeply nested"
  | fuel + 1, mayBeEmpty => do
      skipSpace
      let text ← peek
      if text.isEmpty || (mayBeEmpty && endsList text) then return .nothing
      let first ← joined fuel (← stage fuel)
      skipBlanks
      let text ← peek
      if ";;".toList.isPrefixOf text then return first
      match text.head? with
      | some '&' =>
          skip 1
          return .sequence (.background first) (← commands fuel true)
      | some ';' | some '\n' =>
          skip 1
          return .sequence first (← commands fuel true)
      | _ => return first

end

/-- The commands of one line of a script, up to the line's end, which may nest this deep. -/
def line (depth : Nat) : Nat → Reading Command
  | 0 => fault "too deeply nested"
  | fuel + 1 => do
      skipBlanks
      match (← peek).head? with
      | none => return .nothing
      | some '\n' => skip 1; return .nothing
      | some _ =>
          let first ← joined depth (← stage depth)
          skipBlanks
          match (← peek).head? with
          | none => return first
          | some '\n' => skip 1; return first
          | some '&' =>
              skip 1
              return .sequence (.background first) (← line depth fuel)
          | some ';' =>
              if ";;".toList.isPrefixOf (← peek) then unexpected
              skip 1
              return .sequence first (← line depth fuel)
          | some _ => unexpected

/-- The bounds on the reading of a script. -/
def depthOf (script : List Char) : Nat := 16 * script.length + 64

end HostAudit.Script
