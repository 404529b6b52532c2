import HostAudit.Text.Blank
import HostAudit.Unicode.Category
import HostAudit.Unicode.Script
import HostAudit.Unicode.Property
import HostAudit.Unicode.Folding

/-
This file holds classes of characters as patterns write them.
-/

namespace HostAudit.Pattern

open Unicode

/-- A class of characters. -/
inductive Class where
  | none
  | range (first last : Nat)
  | runs (members : Runs)
  | not (inner : Class)
  | or (left right : Class)
  | and (left right : Class)
  /-- The characters that differ from a member in case only. -/
  | folded (inner : Class)
  /-- The same for ASCII letters alone. -/
  | asciiFolded (inner : Class)
deriving Repr

namespace Class

/-- The other case of an ASCII letter; all else is its own. -/
def otherAsciiCase (code : Nat) : Nat :=
  if 65 ≤ code ∧ code ≤ 90 then code + 32
  else if 97 ≤ code ∧ code ≤ 122 then code - 32
  else code

def containsCode : Class → Nat → Bool
  | none, _ => false
  | range first last, code => first ≤ code && code ≤ last
  | runs members, code => members.contains code
  | not inner, code => !inner.containsCode code
  | or left right, code => left.containsCode code || right.containsCode code
  | and left right, code => left.containsCode code && right.containsCode code
  | folded inner, code => (caseClass code).any inner.containsCode
  | asciiFolded inner, code =>
      inner.containsCode code || inner.containsCode (otherAsciiCase code)

def contains (set : Class) (c : Char) : Bool := set.containsCode c.toNat

def single (c : Char) : Class := range c.toNat c.toNat

def without (left right : Class) : Class := and left (not right)

def either (left right : Class) : Class := or (without left right) (without right left)

def any : Class := range 0 0x10FFFF

def lineBreak : Class := range 0xA 0xA

def ranges : List (Char × Char) → Class
  | [] => none
  | (first, last) :: rest => or (range first.toNat last.toNat) (ranges rest)

/-- The digits, blanks and word characters of ASCII. -/
def asciiDigit : Class := ranges [('0', '9')]

def asciiBlank : Class := ranges [('\t', '\x0d'), (' ', ' ')]

def asciiWord : Class := ranges [('0', '9'), ('A', 'Z'), ('_', '_'), ('a', 'z')]

def digit : Class := runs ((category? "nd").getD [])

def blank : Class := runs ((property? "whitespace").getD [])

/-- Letters, marks, digits, connectors and joiners make words. -/
def word : Class :=
  runs ((property? "alphabetic").getD [] ++ (category? "m").getD [] ++ (category? "nd").getD [] ++
    (category? "pc").getD [] ++ (property? "joincontrol").getD [])

/-- The named classes of ASCII characters. -/
def ascii? : String → Option Class
  | "alnum" => some (ranges [('0', '9'), ('A', 'Z'), ('a', 'z')])
  | "alpha" => some (ranges [('A', 'Z'), ('a', 'z')])
  | "ascii" => some (ranges [('\x00', '\x7f')])
  | "blank" => some (ranges [('\t', '\t'), (' ', ' ')])
  | "cntrl" => some (ranges [('\x00', '\x1f'), ('\x7f', '\x7f')])
  | "digit" => some asciiDigit
  | "graph" => some (ranges [('!', '~')])
  | "lower" => some (ranges [('a', 'z')])
  | "print" => some (ranges [(' ', '~')])
  | "punct" => some (ranges [('!', '/'), (':', '@'), ('[', '\x60'), ('\x7b', '~')])
  | "space" => some asciiBlank
  | "upper" => some (ranges [('A', 'Z')])
  | "word" => some asciiWord
  | "xdigit" => some (ranges [('0', '9'), ('A', 'F'), ('a', 'f')])
  | _ => Option.none

/-- This puts a property's name into the form of the tables: lower case, an `is` in front and all
blanks, lines and hyphens left out. The short name of the category Other keeps its `is`. -/
def tableName (name : List Char) : String :=
  let lower := name.map Char.toLower
  let (stripped, rest) := match lower with
    | 'i' :: 's' :: rest => (true, rest)
    | rest => (false, rest)
  let kept := rest.filter fun c => c != ' ' && c != '_' && c != '-' && c.val < 0x80
  if stripped && kept == ['c'] then "isc" else String.ofList kept

/-- The class of a property that stands alone. Three short names belong to categories. -/
def property? (name : List Char) : Option Class :=
  let name := tableName name
  let byProperty :=
    if name = "cf" ∨ name = "sc" ∨ name = "lc" then Option.none else Unicode.property? name
  (byProperty <|> category? name <|> script? name).map runs

/-- The class of a property that has a value. -/
def valued? (name value : List Char) : Option Class :=
  let name := tableName name
  let value := tableName value
  if name = "generalcategory" ∨ name = "gc" then (category? value).map runs
  else if name = "script" ∨ name = "sc" then (script? value).map runs
  else if name = "scriptextensions" ∨ name = "scx" then (extendedScript? value).map runs
  else Option.none

end Class

end HostAudit.Pattern
