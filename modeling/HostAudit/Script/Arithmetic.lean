import HostAudit.Number.Integer
import HostAudit.Script.Octets
import HostAudit.Script.Syntax

/-
This file reads and evaluates the arithmetic of probe scripts, whose values are signed 64-bit words.
-/

namespace HostAudit.Script

/-- The variables of a script by name. -/
abbrev Variables := List (List Char × List Char)

/-- This sets a variable in the place that it has, or behind the others. -/
def Variables.set (name value : List Char) : Variables → Variables
  | [] => [(name, value)]
  | (other, held) :: rest =>
      if other = name then (name, value) :: rest else (other, held) :: Variables.set name value rest

def Variables.unset (name : List Char) (bindings : Variables) : Variables :=
  bindings.filter (·.1 != name)

/-- Why an expression has no value. -/
inductive ArithmeticFault where
  /-- Something else should stand in the text. -/
  | expecting (what : String)
  | divisionByZero
  | notNumber (text : List Char)
deriving Repr

def ArithmeticFault.message (expression : List Char) : ArithmeticFault → List Char
  | expecting what =>
      octets ("arithmetic expression: expecting " ++ what ++ ": \"") ++ expression ++ ['"']
  | divisionByZero => "arithmetic expression: division by zero: \"".toList ++ expression ++ ['"']
  | notNumber text => "Illegal number: ".toList ++ text

namespace Arithmetic

inductive Token where
  | number (value : Int)
  | name (letters : List Char)
  | sign (spelling : String)
deriving DecidableEq, Repr

def signs : List String :=
  ["<<=", ">>=", "&&", "||", "==", "!=", "<=", ">=", "<<", ">>", "+=", "-=", "*=", "/=", "%=",
    "&=", "|=", "^=", "+", "-", "*", "/", "%", "<", ">", "=", "!", "~", "&", "|", "^", "(", ")",
    "?", ":", ","]

/-- The value of a literal in base ten, eight or sixteen. -/
def literal? (digits : List Char) : Option Int :=
  (match digits with
    | '0' :: 'x' :: rest => Integer.natural? 16 rest
    | '0' :: 'X' :: rest => Integer.natural? 16 rest
    | '0' :: c :: rest => Integer.natural? 8 (c :: rest)
    | digits => Integer.natural? 10 digits).map Int.ofNat

/-- The digits of the literal at the front of a text, with the sign of its base. -/
def literalAt (text : List Char) : List Char :=
  let digits (base : Nat) (text : List Char) : List Char :=
    text.takeWhile fun c => (Integer.digit? base c).isSome
  match text with
  | '0' :: x :: rest =>
      let inner := digits 16 rest
      if (x == 'x' || x == 'X') && !inner.isEmpty then '0' :: x :: inner
      else '0' :: digits 8 (x :: rest)
  | text => digits 10 text

/-- The tokens of a text; a character that means nothing is a sign by itself. -/
def tokens : Nat → List Char → List Token
  | 0, _ => []
  | _ + 1, [] => []
  | fuel + 1, c :: rest =>
      let text := c :: rest
      if c.isWhitespace then tokens fuel rest
      else if c.isDigit then
        let letters := literalAt text
        let value := min ((literal? letters).getD 0) (2 ^ 63 - 1)
        .number value :: tokens fuel (text.drop letters.length)
      else if c.isAlpha || c == '_' then
        let letters := text.takeWhile fun c => c.isAlphanum || c == '_'
        .name letters :: tokens fuel (text.drop letters.length)
      else
        let sign := (signs.find? fun sign => sign.toList.isPrefixOf text).getD (String.singleton c)
        .sign sign :: tokens fuel (text.drop sign.length)

/-- The operations of one rank, from those that bind least to those that bind most. -/
def ranks : List (List (String × Operation)) :=
  [[("|", .bitOr)], [("^", .bitXor)], [("&", .bitAnd)], [("==", .equal), ("!=", .notEqual)],
    [("<=", .lessEqual), (">=", .greaterEqual), ("<", .less), (">", .greater)],
    [("<<", .shiftLeft), (">>", .shiftRight)], [("+", .add), ("-", .subtract)],
    [("*", .multiply), ("/", .divide), ("%", .remainder)]]

def assignments : List (String × Option Operation) :=
  [("=", none), ("+=", some .add), ("-=", some .subtract), ("*=", some .multiply),
    ("/=", some .divide), ("%=", some .remainder), ("&=", some .bitAnd), ("|=", some .bitOr),
    ("^=", some .bitXor), ("<<=", some .shiftLeft), (">>=", some .shiftRight)]

abbrev Read := Except ArithmeticFault (Expression × List Token)

/-- The fault of a text in which an operand is missing. -/
def missing {A : Type} : Except ArithmeticFault A := .error (.expecting "primary")

mutual

/-- An assignment or a choice. -/
def assigned? : Nat → List Token → Read
  | 0, _ => missing
  | fuel + 1, tokens => do
      if let .name letters :: .sign spelling :: rest := tokens then
        if let some operation := assignments.lookup spelling then
          let (value, rest) ← assigned? fuel rest
          return (.assign letters operation value, rest)
      choice? fuel tokens

def choice? : Nat → List Token → Read
  | 0, _ => missing
  | fuel + 1, tokens => do
      let (condition, rest) ← either? fuel tokens
      match rest with
      | .sign "?" :: rest =>
          let (yes, rest) ← assigned? fuel rest
          match rest with
          | .sign ":" :: rest =>
              let (no, rest) ← choice? fuel rest
              return (.choice condition yes no, rest)
          | _ => throw (.expecting "':'")
      | _ => return (condition, rest)

def either? : Nat → List Token → Read
  | 0, _ => missing
  | fuel + 1, tokens => do
      let (left, rest) ← both? fuel tokens
      match rest with
      | .sign "||" :: rest =>
          let (right, rest) ← either? fuel rest
          return (.either left right, rest)
      | _ => return (left, rest)

def both? : Nat → List Token → Read
  | 0, _ => missing
  | fuel + 1, tokens => do
      let (left, rest) ← ranked? fuel ranks tokens
      match rest with
      | .sign "&&" :: rest =>
          let (right, rest) ← both? fuel rest
          return (.both left right, rest)
      | _ => return (left, rest)

def ranked? : Nat → List (List (String × Operation)) → List Token → Read
  | 0, _, _ => missing
  | fuel + 1, [], tokens => unary? fuel tokens
  | fuel + 1, rank :: higher, tokens => do
      let (left, rest) ← ranked? fuel higher tokens
      chain? fuel rank higher left rest

/-- This goes on with operations of one rank, which group to the left. -/
def chain? : Nat → List (String × Operation) → List (List (String × Operation)) → Expression →
    List Token → Read
  | 0, _, _, _, _ => missing
  | fuel + 1, rank, higher, left, tokens =>
      match tokens with
      | .sign spelling :: rest =>
          match rank.lookup spelling with
          | none => return (left, tokens)
          | some operation => do
              let (right, rest) ← ranked? fuel higher rest
              chain? fuel rank higher (.binary operation left right) rest
      | _ => return (left, tokens)

def unary? : Nat → List Token → Read
  | 0, _ => missing
  | fuel + 1, tokens => do
      match tokens with
      | .number value :: rest => return (.number value, rest)
      | .name letters :: rest => return (.named letters, rest)
      | .sign "+" :: rest => unary? fuel rest
      | .sign "-" :: rest =>
          let (operand, rest) ← unary? fuel rest
          return (.negate operand, rest)
      | .sign "~" :: rest =>
          let (operand, rest) ← unary? fuel rest
          return (.complement operand, rest)
      | .sign "!" :: rest =>
          let (operand, rest) ← unary? fuel rest
          return (.isZero operand, rest)
      | .sign "(" :: rest =>
          match ← assigned? fuel rest with
          | (inner, .sign ")" :: rest) => return (inner, rest)
          | _ => throw (.expecting "')'")
      | _ => missing

end

/-- The expression that a text writes. -/
def expression? (text : List Char) : Except ArithmeticFault Expression := do
  let tokens := tokens (text.length + 1) text
  match ← assigned? (16 * tokens.length + 16) tokens with
  | (expression, []) => return expression
  | _ => throw (.expecting "EOF")

def wrap (value : Int) : Int := Int.bmod value (2 ^ 64)

def truth (condition : Bool) : Int := if condition then 1 else 0

def bits (operation : BitVec 64 → BitVec 64 → BitVec 64) (left right : Int) : Int :=
  (operation (BitVec.ofInt 64 left) (BitVec.ofInt 64 right)).toInt

def apply (operation : Operation) (left right : Int) : Except ArithmeticFault Int :=
  match operation with
  | .add => .ok (wrap (left + right))
  | .subtract => .ok (wrap (left - right))
  | .multiply => .ok (wrap (left * right))
  | .divide => if right = 0 then .error .divisionByZero else .ok (wrap (left.tdiv right))
  | .remainder => if right = 0 then .error .divisionByZero else .ok (left.tmod right)
  | .shiftLeft => .ok (wrap (left * 2 ^ (right % 64).toNat))
  | .shiftRight => .ok (left.fdiv (2 ^ (right % 64).toNat))
  | .bitAnd => .ok (bits (· &&& ·) left right)
  | .bitOr => .ok (bits (· ||| ·) left right)
  | .bitXor => .ok (bits (· ^^^ ·) left right)
  | .less => .ok (truth (left < right))
  | .lessEqual => .ok (truth (left ≤ right))
  | .greater => .ok (truth (right < left))
  | .greaterEqual => .ok (truth (right ≤ left))
  | .equal => .ok (truth (left == right))
  | .notEqual => .ok (truth (left != right))

/-- The number that a variable holds; one that is missing or empty holds zero. -/
def held (bindings : Variables) (name : List Char) : Except ArithmeticFault Int :=
  let text := (bindings.lookup name).getD []
  let trimmed := (text.dropWhile Char.isWhitespace).reverse.dropWhile Char.isWhitespace |>.reverse
  match trimmed with
  | [] => .ok 0
  | '-' :: digits =>
      match literal? digits with
      | some value => .ok (wrap (-value))
      | none => .error (.notNumber text)
  | '+' :: digits | digits =>
      match literal? digits with
      | some value => .ok (wrap value)
      | none => .error (.notNumber text)

/-- The value of an expression and the variables after its assignments. -/
def evaluate (bindings : Variables) : Expression → Except ArithmeticFault (Int × Variables)
  | .number value => .ok (wrap value, bindings)
  | .named name => do return (← held bindings name, bindings)
  | .negate operand => do
      let (value, bindings) ← evaluate bindings operand
      return (wrap (-value), bindings)
  | .complement operand => do
      let (value, bindings) ← evaluate bindings operand
      return (-value - 1, bindings)
  | .isZero operand => do
      let (value, bindings) ← evaluate bindings operand
      return (truth (value == 0), bindings)
  | .binary operation left right => do
      let (first, bindings) ← evaluate bindings left
      let (second, bindings) ← evaluate bindings right
      return (← apply operation first second, bindings)
  | .both left right => do
      let (first, bindings) ← evaluate bindings left
      if first = 0 then return (0, bindings)
      let (second, bindings) ← evaluate bindings right
      return (truth (second != 0), bindings)
  | .either left right => do
      let (first, bindings) ← evaluate bindings left
      if first ≠ 0 then return (1, bindings)
      let (second, bindings) ← evaluate bindings right
      return (truth (second != 0), bindings)
  | .choice condition yes no => do
      let (first, bindings) ← evaluate bindings condition
      if first ≠ 0 then evaluate bindings yes else evaluate bindings no
  | .assign name operation value => do
      let (second, bindings) ← evaluate bindings value
      let result ← match operation with
        | none => pure second
        | some operation => apply operation (← held bindings name) second
      return (result, bindings.set name (Integer.chars result))

end Arithmetic

end HostAudit.Script
