import HostAudit.Number.Integer

/-
This file holds path templates: text with expressions in it, each of which selects nodes of a
document.
-/

namespace HostAudit.Path

/-- This picks nodes among the children of a node. Negative positions count from the end. -/
inductive Selector where
  | field (name : String)
  | index (position : Int)
  | slice (first last : Option Int)
  | wildcard
deriving DecidableEq, Repr

/-- A step selects at a node, or at the node and all nodes below it. -/
inductive Step where
  | child (selector : Selector)
  | descend (selector : Selector)
deriving DecidableEq, Repr

inductive Segment where
  | text (text : String)
  | expression (steps : List Step)
deriving DecidableEq, Repr

/-- A template and the text that it was read from. -/
structure Template where
  source : String
  segments : List Segment
deriving DecidableEq, Repr

/-- What is wrong with a text that is no template. Offsets count bytes. -/
inductive Fault where
  | unclosedAction (offset : Nat)
  | unexpectedBrace (offset : Nat)
  | descentWithoutName
  | invalidName (name : String)
  | unrecognized (c : Char) (expression : String)
  | unterminatedIndex
  | filter
  | invalidSlice (body : String)
  | invalidIndex (body : String)
deriving DecidableEq, Repr

def Fault.message : Fault → String
  | unclosedAction offset => "unclosed action at offset " ++ Integer.naturalText offset
  | unexpectedBrace offset => "unexpected '\x7d' at offset " ++ Integer.naturalText offset
  | descentWithoutName => "recursive descent requires a field name"
  | invalidName name => "invalid field name '" ++ name ++ "'"
  | unrecognized c expression =>
      "unrecognized character '" ++ c.toString ++ "' in expression '" ++ expression ++ "'"
  | unterminatedIndex => "unterminated array index"
  | filter => "filter expressions are not supported"
  | invalidSlice body => "invalid array slice '" ++ body ++ "'"
  | invalidIndex body => "invalid array index '" ++ body ++ "'"

/-- A text that is no template, and what is wrong with it. -/
structure Malformed where
  expression : String
  fault : Fault
deriving DecidableEq, Repr

def Malformed.message (malformed : Malformed) : String :=
  "unable to parse path expression \"" ++ malformed.expression ++ "\": " ++ malformed.fault.message

end HostAudit.Path
