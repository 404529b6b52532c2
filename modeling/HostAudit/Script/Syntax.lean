/-
This file holds the syntax of probe scripts: words with their expansions, and commands. Texts of a
script are lists of octets, where an octet is held as the character of the same number.
-/

namespace HostAudit.Script

/-- Which part of a value a pattern takes away. -/
inductive Trim where
  | shortestPrefix
  | longestPrefix
  | shortestSuffix
  | longestSuffix
deriving DecidableEq, Repr

/-- What a word stands in for: a missing value, or a missing or empty one. -/
inductive Fallback where
  | value
  | assigned
  | required
  /-- The word stands in for a value that is there. -/
  | present
deriving DecidableEq, Repr

/-- What a redirection does with the file or descriptor that it names. -/
inductive Direction where
  | read
  | write
  | append
  | readWrite
  | duplicate
  /-- The word is the input itself. -/
  | here
deriving DecidableEq, Repr

/-- An arithmetic operation on two values. -/
inductive Operation where
  | add | subtract | multiply | divide | remainder
  | shiftLeft | shiftRight | bitAnd | bitOr | bitXor
  | less | lessEqual | greater | greaterEqual | equal | notEqual
deriving DecidableEq, Repr

/-- An arithmetic expression. -/
inductive Expression where
  | number (value : Int)
  | named (name : List Char)
  | negate (operand : Expression)
  | complement (operand : Expression)
  | isZero (operand : Expression)
  | binary (operation : Operation) (left right : Expression)
  | both (left right : Expression)
  | either (left right : Expression)
  | choice (condition yes no : Expression)
  | assign (name : List Char) (operation : Option Operation) (value : Expression)
deriving Repr

mutual

/-- A part of a word. What is quoted is neither split into fields nor taken for a pattern. -/
inductive Piece where
  | text (octets : List Char) (quoted : Bool)
  | parameter (name : List Char) (use : Use) (quoted : Bool)
  | output (body : Command) (quoted : Bool)
  | arithmetic (expression : List Piece) (quoted : Bool)

/-- What is done with the value of a parameter. -/
inductive Use where
  | plain
  /-- The braces hold nothing that has a meaning. -/
  | malformed
  | length
  | fallback (kind : Fallback) (emptyToo : Bool) (word : List Piece)
  | trim (kind : Trim) (pattern : List Piece)

inductive Redirection where
  | mk (descriptor : Nat) (direction : Direction) (target : List Piece)

inductive Command where
  | nothing
  | simple (line : Nat) (assignments : List (List Char × List Piece)) (words : List (List Piece))
      (redirections : List Redirection)
  | pipeline (stages : List Command)
  | negated (body : Command)
  | sequence (first second : Command)
  | both (first second : Command)
  | either (first second : Command)
  | subshell (body : Command)
  | background (body : Command)
  | redirected (line : Nat) (body : Command) (redirections : List Redirection)
  | conditional (condition body other : Command)
  | loop (condition : Command) (goal : Bool) (body : Command)
  | forEach (line : Nat) (name : List Char) (words : Option (List (List Piece))) (body : Command)
  | select (line : Nat) (subject : List Piece) (cases : List (List (List Piece) × Command))
  | define (name : List Char) (body : Command)

end

abbrev Word := List Piece

instance : Inhabited Command := ⟨.nothing⟩

end HostAudit.Script
