import HostAudit.FileTree
import HostAudit.Number.Integer
import HostAudit.Script.Octets

/-
This file decides the conditions of `test`.
-/

namespace HostAudit.Script

namespace Condition

/-- The number that an operand of a comparison writes, with blanks around it. -/
def integer (word : List Char) : Except (List Char) Int :=
  let trimmed := ((word.dropWhile Char.isWhitespace).reverse.dropWhile Char.isWhitespace).reverse
  match Integer.int64? 10 trimmed with
  | some value => .ok value
  | none => .error ("Illegal number: ".toList ++ word)

/-- The truth of a sign that stands before a word. -/
def unary? (tree : FileTree) (sign : String) (word : List Char) : Option Bool :=
  let path := textOf word
  match sign with
  | "-n" => some (!word.isEmpty)
  | "-z" => some word.isEmpty
  | "-e" | "-r" | "-w" | "-O" | "-G" => some (tree.holds path)
  | "-f" => some (tree.isFile path)
  | "-d" => some ((tree.node? path).any FileNode.isDirectory)
  | "-x" => some ((tree.node? path).any FileNode.isDirectory)
  | "-s" => some ((tree.bytes path).toOption.any (!·.isEmpty) ||
      (tree.node? path).any FileNode.isDirectory)
  | "-L" | "-h" => some (isLink path)
  | "-b" | "-c" | "-p" | "-S" | "-t" | "-u" | "-g" | "-k" => some false
  | _ => none
where
  isLink (path : String) : Bool :=
    match (FileTree.parts path).getLast?, tree.follow FileTree.linkLimit (tree.start path)
        (FileTree.parts path).dropLast with
    | some name, .ok place =>
        match tree.root.at? (place ++ [name]) with
        | some (.link _) => true
        | _ => false
    | _, _ => false

/-- The truth of a sign that stands between two words. -/
def binary? (sign : String) (left right : List Char) : Option (Except (List Char) Bool) :=
  let compare (relation : Int → Int → Bool) : Option (Except (List Char) Bool) := some do
    return relation (← integer left) (← integer right)
  match sign with
  | "=" => some (.ok (left = right))
  | "!=" => some (.ok (left ≠ right))
  | "<" => some (.ok (left < right))
  | ">" => some (.ok (right < left))
  | "-eq" => compare (· = ·)
  | "-ne" => compare (· ≠ ·)
  | "-lt" => compare (· < ·)
  | "-le" => compare (· ≤ ·)
  | "-gt" => compare (· > ·)
  | "-ge" => compare (· ≥ ·)
  | "-nt" | "-ot" | "-ef" => some (.ok false)
  | _ => none

/-- The part that a word plays. -/
inductive Role where
  | ended
  | operand
  | unary
  | binary
  | negation
  | both
  | either
  | opening
  | closing
deriving DecidableEq, Repr

/-- The role of a word by itself. -/
def roleOf (word : List Char) : Role :=
  let sign := textOf word
  if (unary? ⟨.directory [], []⟩ sign []).isSome then .unary
  else if (binary? sign ['0'] ['0']).isSome then .binary
  else match sign with
    | "!" => .negation
    | "-a" => .both
    | "-o" => .either
    | "(" => .opening
    | ")" => .closing
    | _ => .operand

/-- The role of the first of some words. A sign that should stand before a word is an operand at the
end and before a sign that stands between words. -/
def role : List (List Char) → Role
  | [] => .ended
  | word :: rest =>
      match roleOf word, rest with
      | .unary, [] => .operand
      | .unary, next :: _ :: _ => if roleOf next = .binary then .operand else .unary
      | .opening, [] => .operand
      | role, _ => role

/-- A truth, and the words from the last one that it was read from. -/
abbrev Read := Except (List Char) (Bool × List (List Char))

mutual

/-- This reads the first of some words in a role, and on. -/
def either (tree : FileTree) : Nat → Role → List (List Char) → Read
  | 0, _, _ => .error "too deeply nested".toList
  | fuel + 1, first, words => do
      let (holds, words) ← both tree fuel first words
      if role (words.drop 1) = .either then
        let (other, words) ← either tree fuel (role (words.drop 2)) (words.drop 2)
        return (holds || other, words)
      return (holds, words)

def both (tree : FileTree) : Nat → Role → List (List Char) → Read
  | 0, _, _ => .error "too deeply nested".toList
  | fuel + 1, first, words => do
      let (holds, words) ← negation tree fuel first words
      if role (words.drop 1) = .both then
        let (other, words) ← both tree fuel (role (words.drop 2)) (words.drop 2)
        return (holds && other, words)
      return (holds, words)

def negation (tree : FileTree) : Nat → Role → List (List Char) → Read
  | 0, _, _ => .error "too deeply nested".toList
  | fuel + 1, first, words =>
      if first = .negation then
        (negation tree fuel (role (words.drop 1))
          (if words.length ≤ 1 then words else words.drop 1)).map fun (holds, words) =>
            (!holds, words)
      else primary tree fuel first words

def primary (tree : FileTree) : Nat → Role → List (List Char) → Read
  | 0, _, _ => .error "too deeply nested".toList
  | fuel + 1, first, words =>
      match first, words with
      | .ended, words => .ok (false, words)
      | _, [] => .ok (false, [])
      | .opening, _ :: rest =>
          if role rest = .closing then .ok (false, rest)
          else do
            let (holds, words) ← either tree fuel (role rest) rest
            if role (words.drop 1) = .closing then return (holds, words.drop 1)
            throw "closing paren expected".toList
      | .unary, sign :: rest =>
          match rest with
          | [] => .error (sign ++ ": argument expected".toList)
          | word :: _ => .ok ((unary? tree (textOf sign) word).getD false, rest)
      | _, left :: rest =>
          match role rest, rest with
          | .binary, [sign] => .error (sign ++ ": argument expected".toList)
          | .binary, sign :: right :: _ => do
              return (← (binary? (textOf sign) left right).getD (.ok false), rest.drop 1)
          | _, _ => .ok (!left.isEmpty, left :: rest)

end

/-- The truth of words from the first one on, which is read in a role. -/
def whole (tree : FileTree) (first : Role) (words : List (List Char)) :
    Except (List Char) Bool := do
  match ← either tree (8 * words.length + 8) first words with
  | (_, word :: _ :: _) =>
      throw (if word.isEmpty then "unexpected operator".toList
        else word ++ ": unexpected operator".toList)
  | (holds, _) => return holds

/-- The truth of the words of a condition. Three or four words have a meaning of their own. -/
def holds (tree : FileTree) : List (List Char) → Except (List Char) Bool
  | [] => .ok false
  | [left, sign, right] =>
      if roleOf sign = .binary then whole tree .operand [left, sign, right]
      else if left = ['('] && right = [')'] then whole tree (role [sign]) [sign]
      else if left = ['!'] then (holds tree [sign, right]).map (!·)
      else whole tree (role [left, sign, right]) [left, sign, right]
  | [first, second, third, fourth] =>
      if first = ['('] && fourth = [')'] then whole tree (role [second, third]) [second, third]
      else if first = ['!'] then (holds tree [second, third, fourth]).map (!·)
      else whole tree (role [first, second, third, fourth]) [first, second, third, fourth]
  | words => whole tree (role words) words

end Condition

end HostAudit.Script
