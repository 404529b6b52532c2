import HostAudit.FileTree
import HostAudit.Pattern.Matching
import HostAudit.Pattern.Reader
import HostAudit.Script.Octets

/-
This file searches texts for lines that match a pattern.
-/

namespace HostAudit.Script

namespace Grep

/-- The options of a search. -/
structure Options where
  inverted : Bool
  caseless : Bool
  counts : Bool
  quiet : Bool
  parts : Bool
  files : Bool
  numbers : Bool
  silent : Bool
  words : Bool
  lines : Bool

/-- The spelling of a character that stands for itself. -/
def plain (c : Char) : List Char :=
  if c.isAlphanum || c == '_' || 0x80 ≤ c.toNat then [c] else ['\\', c]

/-- This copies a bracket expression, in which a backslash stands for itself. -/
def bracket : Nat → List Char → List Char × List Char
  | 0, text => ([], text)
  | _ + 1, [] => ([], [])
  | _ + 1, ']' :: rest => ([']'], rest)
  | fuel + 1, '[' :: ':' :: rest =>
      let name := rest.takeWhile Char.isAlpha
      let (more, after) := bracket fuel ((rest.drop name.length).drop 2)
      ("[:".toList ++ name ++ ":]".toList ++ more, after)
  | fuel + 1, '-' :: rest =>
      let (more, after) := bracket fuel rest
      ((if rest.head? == some ']' then "\\-" else "-").toList ++ more, after)
  | fuel + 1, c :: rest =>
      let (more, after) := bracket fuel rest
      (plain c ++ more, after)

/-- A bracket expression from behind its opening bracket. -/
def bracketed (text : List Char) : List Char × List Char :=
  let (negation, text) := match text with
    | '^' :: rest => (['^'], rest)
    | rest => ([], rest)
  let (first, text) := match text with
    | ']' :: rest => (['\\', ']'], rest)
    | rest => ([], rest)
  let (body, rest) := bracket (text.length + 1) text
  ('[' :: negation ++ first ++ body, rest)

/-- A basic expression, in which the signs of grouping, choice and repetition need a backslash, or
an extended one, in which a backslash takes their meaning away. -/
def spelledOut (extended : Bool) : Nat → Bool → List Char → List Char
  | 0, _, _ => []
  | _ + 1, _, [] => []
  | fuel + 1, _, '[' :: rest =>
      let (set, after) := bracketed rest
      set ++ spelledOut extended fuel false after
  | fuel + 1, _, '\\' :: c :: rest =>
      let sign := "(){}|+?".toList.contains c
      if sign && !extended then c :: spelledOut extended fuel (c == '(' || c == '|') rest
      else '\\' :: c :: spelledOut extended fuel false rest
  | fuel + 1, start, c :: rest =>
      if !extended && ("(){}|+?".toList.contains c || (c == '*' && start)) then
        '\\' :: c :: spelledOut extended fuel false rest
      else c :: spelledOut extended fuel (start && c == '^') rest

/-- The expression that a word writes under a flavour of syntax: basic, extended or fixed. -/
def expression (flavour : Char) (word : List Char) : List Char :=
  match flavour with
  | 'F' => word.flatMap plain
  | 'P' => word
  | _ => spelledOut (flavour == 'E') (word.length + 1) true word

def pattern? (options : Options) (flavour : Char) (word : List Char) : Option Pattern :=
  let body := Text.join ['|'] ((Text.splitAt '\n' word).map (expression flavour))
  let grouped := "(?:".toList ++ body ++ [')']
  let whole :=
    if options.lines then '^' :: grouped ++ ['$']
    else if options.words then "\\b".toList ++ grouped ++ "\\b".toList
    else grouped
  Pattern.ofText? (textOf ((if options.caseless then "(?i)".toList else []) ++ whole))

/-- The longest matches in a line, from the left. -/
def found (pattern : Pattern) (line : Array Char) : Nat → Nat → List (List Char)
  | 0, _ => []
  | fuel + 1, start =>
      if line.size < start then []
      else match (Pattern.reach line pattern [start]).getLast? with
        | none => found pattern line fuel (start + 1)
        | some last =>
            if last ≤ start then found pattern line fuel (start + 1)
            else ((line.toList.take last).drop start) :: found pattern line fuel last

/-- This searches one text; its name is written before what is found when there are several. -/
def search (options : Options) (pattern : Pattern) (label : Option (List Char))
    (name text : List Char) : Answer :=
  let numbered := (linesOf text).zipIdx 1
  let matching := numbered.filter fun (line, _) =>
    pattern.matchesText (textOf line) != options.inverted
  let lead (index : Nat) : List Char :=
    label.elim [] (· ++ [':']) ++
      if options.numbers then Nat.toDigits 10 index ++ [':'] else []
  let output : List Char :=
    if options.quiet then []
    else if options.files then if matching.isEmpty then [] else name ++ ['\n']
    else if options.counts then
      label.elim [] (· ++ [':']) ++ Nat.toDigits 10 matching.length ++ ['\n']
    else if options.parts then
      if options.inverted then []
      else matching.flatMap fun (line, index) =>
        let chars := (textOf line).toList.toArray
        ended ((found pattern chars (chars.size + 1) 0).map fun part =>
          lead index ++ octets (String.ofList part))
    else ended (matching.map fun (line, index) => lead index ++ line)
  ⟨output, [], if matching.isEmpty then 1 else 0⟩

/-- A search succeeds if something is found, and fails badly if a file is missing. -/
def merged (answers : List Answer) : Answer :=
  ⟨answers.flatMap (·.output), answers.flatMap (·.errors),
    if answers.any (·.status = 2) then 2
    else if answers.any (·.status = 0) then 0 else 1⟩

def run (tree : FileTree) (flavour : Char) (words : List (List Char)) (input : List Char) :
    Answer :=
  let (given, operands) := optionsOf "emABC" words
  let has (letter : Char) : Bool := given.any (·.1 == letter)
  let options : Options :=
    { inverted := has 'v', caseless := has 'i' || has 'y', counts := has 'c', quiet := has 'q',
      parts := has 'o', files := has 'l', numbers := has 'n', silent := has 's',
      words := has 'w', lines := has 'x' }
  let flavour := if has 'F' then 'F' else if has 'E' then 'E' else if has 'P' then 'P' else flavour
  let (expressions, files) := match given.filter (·.1 == 'e') with
    | [] => (operands.take 1, operands.drop 1)
    | named => (named.map Prod.snd, operands)
  match expressions with
  | [] => .failure 2
      "Usage: grep [OPTION]... PATTERNS [FILE]...\nTry 'grep --help' for more information."
  | _ =>
      match pattern? options flavour (Text.join ['\n'] expressions) with
      | none => .failure 2 "grep: Invalid regular expression"
      | some pattern =>
          let labelled := (files.length > 1 || has 'H') && !has 'h'
          match files with
          | [] =>
              search options pattern (if labelled then some "(standard input)".toList else none)
                "(standard input)".toList input
          | files => merged (files.map fun name =>
              if name = ['-'] then
                search options pattern (if labelled then some "(standard input)".toList else none)
                  "(standard input)".toList input
              else match tree.bytes (textOf name) with
                | .ok bytes =>
                    search options pattern (if labelled then some name else none) name
                      (ofBytes bytes)
                | .error fault =>
                    if options.silent then ⟨[], [], 2⟩
                    else .failure 2 ("grep: " ++ textOf name ++ ": " ++ fault.reason))

end Grep

end HostAudit.Script
