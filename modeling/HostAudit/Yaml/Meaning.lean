import HostAudit.Number.Decimal
import HostAudit.Text.Pieces
import HostAudit.Yaml.Token

/-
This file says what the text of a scalar stands for.
-/

namespace HostAudit.Yaml

/-- A whole number has at most 128 bits. -/
inductive Meaning where
  | null
  | bool (value : Bool)
  | integer (value : Int)
  | double (value : Double)
  | text (value : String)
deriving DecidableEq, Repr

namespace Meaning

def isNull (text : String) : Bool := ["null", "Null", "NULL", "~"].contains text

def bool? : String → Option Bool
  | "true" | "True" | "TRUE" => some true
  | "false" | "False" | "FALSE" => some false
  | _ => none

/-- Digits that begin with a needless zero are not a number. -/
def isCode (text : List Char) : Bool :=
  let digits := (Decimal.takeSign text).2
  match digits with
  | '0' :: _ :: _ => digits.all Integer.isDigit
  | _ => false

/-- The base that a mark names, and the text after the mark. -/
def base? : List Char → Option (Nat × List Char)
  | '0' :: 'x' :: rest => some (16, rest)
  | '0' :: 'o' :: rest => some (8, rest)
  | '0' :: 'b' :: rest => some (2, rest)
  | _ => none

/-- The value of digits in the base that their mark names, or else in base ten. -/
def magnitude? (text : List Char) : Option Nat :=
  let marked? := (base? text).bind fun (base, digits) => Integer.natural? base digits
  marked? <|> Integer.natural? 10 text

/-- The value of a whole number, from `-2 ^ 127` up to `2 ^ 128`. -/
def integer? (text : List Char) : Option Int :=
  if isCode text then none
  else match text with
    | '-' :: rest =>
        ((magnitude? rest).filter (· ≤ 2 ^ 127)).map fun value => -Int.ofNat value
    | '+' :: rest => ((magnitude? rest).filter (· < 2 ^ 128)).map Int.ofNat
    | rest => ((magnitude? rest).filter (· < 2 ^ 128)).map Int.ofNat

def isInfinity (text : List Char) : Bool := [".inf", ".Inf", ".INF"].contains (String.ofList text)

def isNaN (text : List Char) : Bool := [".nan", ".NaN", ".NAN"].contains (String.ofList text)

/-- The value of a binary64 number; decimals that are too large are none. -/
def double? (text : List Char) : Option Double :=
  let unsigned := (Text.after? ['+'] text).getD text
  if unsigned ≠ text ∧ (unsigned.head? = some '+' ∨ unsigned.head? = some '-') then none
  else if isInfinity unsigned then some (.infinity false)
  else if (Text.after? ['-'] text).any isInfinity then some (.infinity true)
  else if isNaN text then some (.nan false)
  else (Decimal.readDouble? unsigned).filter Double.isFinite

/-- What a plain text without a tag stands for. -/
def ofText (text : String) : Meaning :=
  let chars := text.toList
  if text.isEmpty || isNull text then .null
  else match bool? text with
    | some value => .bool value
    | none =>
        match integer? chars with
        | some value => .integer value
        | none =>
            if isCode chars then .text text
            else match double? chars with
              | some value => .double value
              | none => .text text

/-- The start that a local tag has. -/
def isLocal (tag : String) : Bool := tag.toList.head? == some '!'

/-- What a scalar with a tag that is not local stands for. Some tags ask for a text of a form. -/
def ofScalar? (tag : Option String) (style : Style) (text : String) : Option Meaning :=
  match tag with
  | some "tag:yaml.org,2002:bool" => (bool? text).map bool
  | some "tag:yaml.org,2002:int" => (integer? text.toList).map integer
  | some "tag:yaml.org,2002:float" => (double? text.toList).map double
  | some "tag:yaml.org,2002:null" => if isNull text then some null else none
  | some _ => some (.text text)
  | none => some (if style = .plain then ofText text else .text text)

end Meaning

end HostAudit.Yaml
