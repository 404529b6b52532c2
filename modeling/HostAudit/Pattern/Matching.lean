import HostAudit.Pattern.Syntax

/-
This file decides whether a pattern matches somewhere in a text, by following the set of positions
that a match may have reached.
-/

namespace HostAudit.Pattern

/-- The character before a position satisfies a condition. -/
def before (text : Array Char) (position : Nat) (condition : Char → Bool) : Bool :=
  match position with
  | 0 => false
  | previous + 1 => (text[previous]?).any condition

/-- The character after a position satisfies a condition. -/
def after (text : Array Char) (position : Nat) (condition : Char → Bool) : Bool :=
  (text[position]?).any condition

def Anchor.holds (text : Array Char) (position : Nat) : Anchor → Bool
  | textStart => position == 0
  | textEnd => position == text.size
  | lineStart => position == 0 || before text position (· == '\n')
  | lineEnd => position == text.size || after text position (· == '\n')
  | carriageLineStart =>
      position == 0 || before text position (· == '\n') ||
        (before text position (· == '\r') && !after text position (· == '\n'))
  | carriageLineEnd =>
      position == text.size || after text position (· == '\r') ||
        (after text position (· == '\n') && !before text position (· == '\r'))
  | wordEdge word => before text position word.contains != after text position word.contains
  | wordInside word => before text position word.contains == after text position word.contains
  | wordStart word => !before text position word.contains && after text position word.contains
  | wordEnd word => before text position word.contains && !after text position word.contains
  | wordStartHalf word => !before text position word.contains
  | wordEndHalf word => !after text position word.contains

/-- This merges two sets of positions, both in increasing order. -/
def merge : List Nat → List Nat → List Nat
  | [], right => right
  | left, [] => left
  | a :: left, b :: right =>
      if a < b then a :: merge left (b :: right)
      else if b < a then b :: merge (a :: left) right
      else a :: merge left right

/-- The elements of the first set that are not in the second. -/
def minus : List Nat → List Nat → List Nat
  | [], _ => []
  | left, [] => left
  | a :: left, b :: right =>
      if a < b then a :: minus left (b :: right)
      else if b < a then minus (a :: left) right
      else minus left right

/-- This applies a step a number of times, or until no position is left. -/
def iterate (step : List Nat → List Nat) : Nat → List Nat → List Nat
  | 0, positions => positions
  | _ + 1, [] => []
  | count + 1, positions => iterate step count (step positions)

/-- The positions that at most `count` steps reach, where only `fresh` ones have steps to take. -/
def saturate (step : List Nat → List Nat) : Nat → List Nat → List Nat → List Nat
  | 0, reached, _ => reached
  | _ + 1, reached, [] => reached
  | count + 1, reached, fresh =>
      let next := step fresh
      saturate step count (merge reached next) (minus next reached)

/-- The positions at which a match may end that begins at one of `positions`. -/
def reach (text : Array Char) : Pattern → List Nat → List Nat
  | empty, positions => positions
  | one set, positions =>
      positions.filterMap fun position =>
        if after text position set.contains then some (position + 1) else none
  | look anchor, positions => positions.filter fun position => anchor.holds text position
  | seq first second, positions => reach text second (reach text first positions)
  | alt left right, positions => merge (reach text left positions) (reach text right positions)
  | many body least greatest, positions =>
      let start := iterate (reach text body) least positions
      let more := match greatest with
        | some greatest => greatest - least
        | none => text.size + 1
      saturate (reach text body) more start start

/-- The pattern matches some part of the text. -/
def matchesText (pattern : Pattern) (text : String) : Bool :=
  let chars := text.toList.toArray
  !(reach chars pattern (List.range (chars.size + 1))).isEmpty

end HostAudit.Pattern
