import HostAudit.Number.Integer
import HostAudit.Script.Octets

/-
This file holds the programs that work on the octets and lines of one text: they map, choose, sort
and count.
-/

namespace HostAudit.Script

namespace Columns

/-- The octets of a class by its name. -/
def classOf (name : List Char) : List Char :=
  let all := (List.range 256).map Char.ofNat
  match String.ofList name with
  | "alpha" => all.filter Char.isAlpha
  | "digit" => all.filter Char.isDigit
  | "alnum" => all.filter Char.isAlphanum
  | "upper" => all.filter Char.isUpper
  | "lower" => all.filter Char.isLower
  | "space" => "\t\n\x0b\x0c\r ".toList
  | "blank" => "\t ".toList
  | "punct" => all.filter fun c => '!' ≤ c && c ≤ '~' && !c.isAlphanum
  | "print" => all.filter fun c => ' ' ≤ c && c ≤ '~'
  | "graph" => all.filter fun c => '!' ≤ c && c ≤ '~'
  | "cntrl" => all.filter fun c => c < ' ' || c == '\x7f'
  | "xdigit" => all.filter fun c => (Integer.digit? 16 c).isSome
  | _ => []

/-- An octet of a set with its escapes carried out, and the rest. -/
def setChar : List Char → Option (Char × List Char)
  | [] => none
  | ['\\'] => some ('\\', [])
  | '\\' :: c :: rest =>
      let octal := ((c :: rest).take 3).takeWhile fun c => '0' ≤ c && c ≤ '7'
      if !octal.isEmpty then
        some (Char.ofNat (((Integer.natural? 8 octal).getD 0) % 256), (c :: rest).drop octal.length)
      else
        some ((match c with
          | 'n' => '\n' | 't' => '\t' | 'r' => '\r' | 'a' => '\x07' | 'b' => '\x08'
          | 'f' => '\x0c' | 'v' => '\x0b' | c => c), rest)
  | c :: rest => some (c, rest)

/-- The octets that a set writes, with its ranges and classes. -/
def setOf : Nat → List Char → List Char
  | 0, _ => []
  | _ + 1, [] => []
  | fuel + 1, '[' :: ':' :: rest =>
      let name := rest.takeWhile Char.isAlpha
      if ":]".toList.isPrefixOf (rest.drop name.length) then
        classOf name ++ setOf fuel ((rest.drop name.length).drop 2)
      else '[' :: setOf fuel (':' :: rest)
  | fuel + 1, text =>
      match setChar text with
      | none => []
      | some (low, '-' :: rest) =>
          match setChar rest with
          | none => [low, '-']
          | some (high, rest) =>
              ((List.range (high.toNat + 1 - low.toNat)).map fun step =>
                Char.ofNat (low.toNat + step)) ++ setOf fuel rest
      | some (c, rest) => c :: setOf fuel rest

/-- Of neighbours that are equal and in the set, one stays. -/
def squeezed (set : List Char) : List Char → List Char
  | a :: b :: rest =>
      if a = b && set.contains a then squeezed set (b :: rest) else a :: squeezed set (b :: rest)
  | text => text

/-- This maps, deletes or squeezes octets. -/
def exchange (words : List (List Char)) (input : List Char) : Answer :=
  let (given, sets) := optionsOf "" words
  let has (letter : Char) : Bool := given.any (·.1 == letter)
  let set (index : Nat) : List Char :=
    let text := sets[index]?.getD []
    setOf (text.length + 1) text
  let first :=
    if has 'c' || has 'C' then
      ((List.range 256).map Char.ofNat).filter fun c => !(set 0).contains c
    else set 0
  if sets.isEmpty then .failure 1 "tr: missing operand\nTry 'tr --help' for more information."
  else if has 'd' then
    let kept := input.filter fun c => !first.contains c
    .success (if has 's' then squeezed (set 1) kept else kept)
  else if sets.length = 1 then
    if has 's' then .success (squeezed first input)
    else .failure 1 ("tr: missing operand after \u2018" ++ textOf (sets.headD []) ++
      "\u2019\nTwo strings must be given when translating.\n" ++
      "Try 'tr --help' for more information.")
  else
    let second := set 1
    let mapped := input.map fun c =>
      match first.reverse.idxOf? c with
      | none => c
      | some fromEnd =>
          let index := first.length - 1 - fromEnd
          (second[index]?).getD (second.getLast?.getD c)
    .success (if has 's' then squeezed second mapped else mapped)

/-- A count, and a sign before it. -/
def signedCount (text : List Char) : Option Char × Nat :=
  match text with
  | '+' :: digits => (some '+', (Integer.natural? 10 digits).getD 0)
  | '-' :: digits => (some '-', (Integer.natural? 10 digits).getD 0)
  | digits => (none, (Integer.natural? 10 digits).getD 0)

/-- The lines with their line ends; the last one may lack its own. -/
def wholeLines (text : List Char) : List (List Char) :=
  match Text.splitAt '\n' text with
  | [] => []
  | pieces => (pieces.dropLast.map (· ++ ['\n'])) ++
      (pieces.getLast?.toList.filter (!·.isEmpty))

/-- An old count such as `-5` stands for `-n 5`. -/
def modern (words : List (List Char)) : List (List Char) :=
  words.map fun word => match word with
    | '-' :: c :: rest => if c.isDigit then '-' :: 'n' :: c :: rest else word
    | word => word

def head (words : List (List Char)) (input : List Char) : List Char :=
  let (given, _) := optionsOf "nc" (modern words)
  let cut (items : List (List Char)) (amount : List Char) : List Char :=
    match signedCount amount with
    | (some '-', count) => (items.take (items.length - count)).flatten
    | (_, count) => (items.take count).flatten
  match given.getLast? with
  | some ('c', amount) => cut (input.map ([·])) amount
  | some ('n', amount) => cut (wholeLines input) amount
  | _ => cut (wholeLines input) ['1', '0']

def tail (words : List (List Char)) (input : List Char) : List Char :=
  let (given, _) := optionsOf "nc" (modern words)
  let cut (items : List (List Char)) (amount : List Char) : List Char :=
    match signedCount amount with
    | (some '+', count) => (items.drop (count - 1)).flatten
    | (_, count) => (items.drop (items.length - count)).flatten
  match given.getLast? with
  | some ('c', amount) => cut (input.map ([·])) amount
  | some ('n', amount) => cut (wholeLines input) amount
  | _ => cut (wholeLines input) ['1', '0']

def wordCount (text : List Char) : Nat :=
  (text.foldl (fun (count, inside) c =>
    if c.isWhitespace || c == '\x0b' || c == '\x0c' then (count, false)
    else (if inside then count else count + 1, true)) (0, false)).1

def right (width : Nat) (digits : List Char) : List Char :=
  List.replicate (width - digits.length) ' ' ++ digits

/-- The counts of lines, words and octets that the options ask for. -/
def counts (given : List Char) (text : List Char) : List Nat :=
  let asks (letter : Char) : Bool := given.isEmpty || given.contains letter
  (if asks 'l' then [text.count '\n'] else []) ++ (if asks 'w' then [wordCount text] else []) ++
    (if asks 'c' || given.contains 'm' then [text.length] else [])

def layout (width : Nat) (numbers : List Nat) : List Char :=
  Text.join [' '] (numbers.map fun number => right width (Integer.naturalChars number))

/-- The counts of the input alone. -/
def count (words : List (List Char)) (input : List Char) : List Char :=
  let numbers := counts ((optionsOf "" words).1.map Prod.fst) input
  layout (if numbers.length > 1 then 7 else 1) numbers ++ ['\n']

/-- The value of a line for a sort by number. -/
def numberOf (line : List Char) : Int :=
  let text := line.dropWhile Char.isWhitespace
  match text with
  | '-' :: rest => -Int.ofNat ((Integer.natural? 10 (rest.takeWhile Char.isDigit)).getD 0)
  | rest => Int.ofNat ((Integer.natural? 10 (rest.takeWhile Char.isDigit)).getD 0)

def notAfter (first second : List Char) : Bool := !(second < first)

def sorted (words : List (List Char)) (input : List Char) : List Char :=
  let given := (optionsOf "kto" words).1.map Prod.fst
  let folded (line : List Char) : List Char :=
    if given.contains 'f' then line.map Char.toUpper else line
  let before (first second : List Char) : Bool :=
    if given.contains 'n' then
      if numberOf first = numberOf second then
        given.contains 'u' || notAfter first second
      else numberOf first < numberOf second
    else if folded first = folded second then given.contains 'u' || notAfter first second
    else notAfter (folded first) (folded second)
  let order (first second : List Char) : Bool :=
    if given.contains 'r' then before second first else before first second
  let lines := (linesOf input).mergeSort order
  let same (first second : List Char) : Bool :=
    if given.contains 'n' then numberOf first = numberOf second else folded first = folded second
  let kept := if given.contains 'u' then
      lines.foldr (fun line rest => match rest with
        | next :: others => if same line next then line :: others else line :: rest
        | [] => [line]) []
    else lines
  ended kept

/-- Runs of equal lines with their lengths. -/
def runs : List (List Char) → List (List Char × Nat)
  | [] => []
  | line :: rest =>
      match runs rest with
      | (other, count) :: others =>
          if line = other then (line, count + 1) :: others
          else (line, 1) :: (other, count) :: others
      | [] => [(line, 1)]

def unique (words : List (List Char)) (input : List Char) : List Char :=
  let given := (optionsOf "" words).1.map Prod.fst
  let kept := (runs (linesOf input)).filter fun (_, count) =>
    (!given.contains 'd' || count > 1) && (!given.contains 'u' || count = 1)
  ended (kept.map fun (line, count) =>
    if given.contains 'c' then right 7 (Integer.naturalChars count) ++ ' ' :: line else line)

/-- The ranges of a list such as `1,3-5,7-`. -/
def ranges (text : List Char) : List (Nat × Option Nat) :=
  (Text.splitAt ',' text).map fun item =>
    match Text.splitAt '-' item with
    | [low, high] => ((Integer.natural? 10 low).getD 1, Integer.natural? 10 high)
    | [only] => let number := (Integer.natural? 10 only).getD 0; (number, some number)
    | _ => (0, some 0)

def chosen {A : Type} (ranges : List (Nat × Option Nat)) (items : List A) : List A :=
  ((items.zipIdx 1).filter fun (_, index) =>
    ranges.any fun (low, high) => low ≤ index && high.all (index ≤ ·)).map Prod.fst

/-- The chosen fields or octets of each line. -/
def cut (words : List (List Char)) (input : List Char) : Answer :=
  let (given, _) := optionsOf "dfcb" words
  let value (letter : Char) : Option (List Char) := given.lookup letter
  match value 'f', (value 'c').or (value 'b') with
  | some list, _ =>
      let separator := ((value 'd').bind List.head?).getD '\t'
      let shown := (linesOf input).filterMap fun line =>
        match Text.splitAt separator line with
        | [_] => if given.any (·.1 == 's') then none else some line
        | fields => some (Text.join [separator] (chosen (ranges list) fields))
      .success (ended shown)
  | none, some list =>
      .success (ended ((linesOf input).map fun line => chosen (ranges list) line))
  | none, none =>
      .failure 1 ("cut: you must specify a list of bytes, characters, or fields\n" ++
        "Try 'cut --help' for more information.")

/-- Whole numbers from a first to a last one by a step, at most `fuel` of them. -/
def numbers : Nat → Int → Int → Int → List Int
  | 0, _, _, _ => []
  | fuel + 1, first, step, last =>
      if (0 < step && last < first) || (step < 0 && first < last) || step = 0 then []
      else first :: numbers fuel (first + step) step last

def sequence (words : List (List Char)) : Answer :=
  match words.mapM (Integer.signed? 10) with
  | some [last] => .success (lay (numbers (last.toNat + 1) 1 1 last))
  | some [first, last] => .success (lay (numbers ((last - first).toNat + 1) first 1 last))
  | some [first, step, last] =>
      .success (lay (numbers ((last - first).natAbs + 1) first step last))
  | _ => .failure 1 "seq: missing operand\nTry 'seq --help' for more information."
where
  lay (values : List Int) : List Char := ended (values.map Integer.chars)

end Columns

end HostAudit.Script
