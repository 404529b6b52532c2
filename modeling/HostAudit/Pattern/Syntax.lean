import HostAudit.Pattern.Class

/-
This file holds the patterns that texts are matched against.
-/

namespace HostAudit

namespace Pattern

/-- A condition on a position between two characters. -/
inductive Anchor where
  | textStart
  | textEnd
  | lineStart
  | lineEnd
  /-- Lines end at a carriage return, a line feed, or both. -/
  | carriageLineStart
  | carriageLineEnd
  | wordEdge (word : Class)
  | wordInside (word : Class)
  | wordStart (word : Class)
  | wordEnd (word : Class)
  | wordStartHalf (word : Class)
  | wordEndHalf (word : Class)
deriving Repr

end Pattern

/-- A pattern. Repetition goes from a least count to a greatest one, or has no bound. -/
inductive Pattern where
  | empty
  | one (set : Pattern.Class)
  | look (anchor : Pattern.Anchor)
  | seq (first second : Pattern)
  | alt (left right : Pattern)
  | many (body : Pattern) (least : Nat) (greatest : Option Nat)
deriving Repr

end HostAudit
