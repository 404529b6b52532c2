/-
This file matches texts against the patterns of file names, in which `*` stands for any text, `?`
for a character, and brackets for a character of a set.
-/

namespace HostAudit.Script

/-- A part of a pattern. A set holds ranges and may be taken the other way round. -/
inductive Glob where
  | only (c : Char)
  | one
  | many
  | set (negated : Bool) (ranges : List (Char × Char))
deriving DecidableEq, Repr

namespace Glob

/-- The ranges between brackets. -/
def ranges : List Char → List (Char × Char)
  | low :: '-' :: high :: rest => (low, high) :: ranges rest
  | c :: rest => (c, c) :: ranges rest
  | [] => []

/-- The set that a text begins with and the text after it; a bracket that comes first is a
member. -/
def set? (text : List (Char × Bool)) : Option (Glob × List (Char × Bool)) :=
  let negated := text.head?.any fun (c, _) => c == '!' || c == '^'
  let inner := if negated then text.drop 1 else text
  let body := inner.take 1 ++ (inner.drop 1).takeWhile (·.1 != ']')
  match inner.drop body.length with
  | _ :: rest => some (.set negated (ranges (body.map Prod.fst)), rest)
  | [] => none

/-- The pattern that characters write, where a quoted character stands for itself. -/
def ofMarked : Nat → List (Char × Bool) → List Glob
  | 0, _ => []
  | _ + 1, [] => []
  | fuel + 1, (c, quoted) :: rest =>
      if quoted then .only c :: ofMarked fuel rest
      else match c with
        | '*' => .many :: ofMarked fuel rest
        | '?' => .one :: ofMarked fuel rest
        | '[' =>
            match set? rest with
            | some (members, after) => members :: ofMarked fuel after
            | none => .only c :: ofMarked fuel rest
        | _ => .only c :: ofMarked fuel rest

def ofText (marked : List (Char × Bool)) : List Glob := ofMarked (marked.length + 1) marked

/-- The character meets a part that stands for one character. -/
def takes (c : Char) : Glob → Bool
  | only other => other == c
  | one => true
  | many => false
  | set negated ranges =>
      (ranges.any fun (low, high) => low ≤ c && c ≤ high) != negated

/-- The text and everything that it ends with. -/
def suffixes : List Char → List (List Char)
  | [] => [[]]
  | c :: rest => (c :: rest) :: suffixes rest

/-- The pattern matches the whole text. -/
def accepts : List Glob → List Char → Bool
  | [], text => text.isEmpty
  | many :: rest, text => (suffixes text).any (accepts rest)
  | part :: rest, c :: text => part.takes c && accepts rest text
  | _ :: _, [] => false

def isSpecial (pattern : List Glob) : Bool :=
  pattern.any fun part => match part with
    | only _ => false
    | _ => true

end Glob

end HostAudit.Script
