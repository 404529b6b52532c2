import HostAudit.Json.Value

/-
This file writes JSON values, on one line or indented.
-/

namespace HostAudit.Json

/-- Values from 1e-5 up to 1e16 are written without an exponent, and then with a decimal at
least. -/
def doubleChars (value : Double) : List Char :=
  let number := Decimal.shortest .even value
  let sign := if value.negative then ['-'] else []
  let isPositional := number.coefficient == 0 || (-5 < number.point && number.point ≤ 16)
  let body :=
    if !isPositional then number.scientific
    else if 0 ≤ number.exponent then number.positional ++ ['.', '0']
    else number.positional
  sign ++ body

def Number.chars : Number → List Char
  | .integer value => Integer.chars value
  | .double value => doubleChars value

/-- Quotes, backslashes and control characters are escaped; all else stands as it is. -/
def escape (c : Char) : List Char :=
  match c with
  | '"' => ['\\', '"']
  | '\\' => ['\\', '\\']
  | '\n' => ['\\', 'n']
  | '\r' => ['\\', 'r']
  | '\t' => ['\\', 't']
  | '\x08' => ['\\', 'b']
  | '\x0c' => ['\\', 'f']
  | c =>
      if c.val < 0x20 then
        '\\' :: 'u' :: '0' :: '0' :: Nat.digitChar (c.toNat / 16) :: [Nat.digitChar (c.toNat % 16)]
      else [c]

def quoted (text : String) : List Char := '"' :: text.toList.flatMap escape ++ ['"']

namespace Value

mutual

/-- This writes a value without blanks. -/
def compactChars : Value → List Char
  | .null => ['n', 'u', 'l', 'l']
  | .bool true => ['t', 'r', 'u', 'e']
  | .bool false => ['f', 'a', 'l', 's', 'e']
  | .number value => value.chars
  | .text value => quoted value
  | .array items => '[' :: compactItems items ++ [']']
  | .object members => '{' :: compactMembers members ++ ['}']

def compactItems : List Value → List Char
  | [] => []
  | [item] => compactChars item
  | item :: rest => compactChars item ++ ',' :: compactItems rest

def compactMembers : List (String × Value) → List Char
  | [] => []
  | [(name, value)] => quoted name ++ ':' :: compactChars value
  | (name, value) :: rest => quoted name ++ ':' :: compactChars value ++ ',' :: compactMembers rest

end

def compact (value : Value) : String := String.ofList (compactChars value)

/-- A line break and two blanks a level. -/
def newLine (level : Nat) : List Char := '\n' :: List.replicate (2 * level) ' '

mutual

/-- This writes a value with one item or member a line. -/
def prettyChars (level : Nat) : Value → List Char
  | .array [] => ['[', ']']
  | .array (item :: rest) =>
      '[' :: newLine (level + 1) ++ prettyChars (level + 1) item ++
        prettyItems (level + 1) rest ++ newLine level ++ [']']
  | .object [] => ['{', '}']
  | .object ((name, value) :: rest) =>
      '{' :: newLine (level + 1) ++ quoted name ++ ':' :: ' ' :: prettyChars (level + 1) value ++
        prettyMembers (level + 1) rest ++ newLine level ++ ['}']
  | .null => ['n', 'u', 'l', 'l']
  | .bool true => ['t', 'r', 'u', 'e']
  | .bool false => ['f', 'a', 'l', 's', 'e']
  | .number value => value.chars
  | .text value => quoted value

def prettyItems (level : Nat) : List Value → List Char
  | [] => []
  | item :: rest => ',' :: newLine level ++ prettyChars level item ++ prettyItems level rest

def prettyMembers (level : Nat) : List (String × Value) → List Char
  | [] => []
  | (name, value) :: rest =>
      ',' :: newLine level ++ quoted name ++ ':' :: ' ' :: prettyChars level value ++
        prettyMembers level rest

end

def pretty (value : Value) : String := String.ofList (prettyChars 0 value)

end Value

end HostAudit.Json
