import HostAudit.Text.Blank
import HostAudit.Text.Pieces
import HostAudit.Number.Integer
import HostAudit.Pattern.Reader
import HostAudit.Pattern.Matching

/-
This file compares an observed value with an expected one, by an operator that is known by name.
-/

namespace HostAudit

/-- An operator that is not known by its name never holds. -/
inductive Operator where
  | equal
  | notEqual
  | greater
  | greaterOrEqual
  | less
  | lessOrEqual
  | has
  | notHas
  | pattern
  | validElements
  | permissions
  | unrecognized (name : String)
deriving DecidableEq, Repr

/-- The answer of a comparison, and what was expected in words. -/
structure Comparison where
  explanation : String
  result : Bool
deriving DecidableEq, Repr

namespace Operator

def ofName : String → Operator
  | "eq" => equal
  | "noteq" => notEqual
  | "gt" => greater
  | "gte" => greaterOrEqual
  | "lt" => less
  | "lte" => lessOrEqual
  | "has" => has
  | "nothave" => notHas
  | "regex" => pattern
  | "valid_elements" => validElements
  | "bitmask" => permissions
  | name => unrecognized name

def name : Operator → String
  | equal => "eq"
  | notEqual => "noteq"
  | greater => "gt"
  | greaterOrEqual => "gte"
  | less => "lt"
  | lessOrEqual => "lte"
  | has => "has"
  | notHas => "nothave"
  | pattern => "regex"
  | validElements => "valid_elements"
  | permissions => "bitmask"
  | unrecognized name => name

end Operator

namespace Comparison

/-- An observed truth value may be in any case; all else is equal as it stands. -/
def looselyEqual (observed expected : String) : Bool :=
  let lower := String.ofList (observed.toList.map Char.toLower)
  if lower = "true" ∨ lower = "false" then lower == expected else observed == expected

/-- The elements of a list with commas between them; commas at its end do not count. -/
def elements (text : String) : List (List Char) :=
  let kept := Text.dropTrailing (· == ',') (Text.trim text.toList)
  if kept.isEmpty then [] else (Text.splitAt ',' kept).map Text.trim

/-- All elements are allowed. An empty list goes with an empty list only. -/
def elementsAllowed (observed allowed : List (List Char)) : Bool :=
  if observed.isEmpty || allowed.isEmpty then observed.isEmpty && allowed.isEmpty
  else observed.all allowed.contains

/-- Every bit of `requested` is a bit of `allowed`, as 64-bit words. -/
def bitsAllowed (requested allowed : Int) : Bool :=
  let requested := BitVec.ofInt 64 requested
  BitVec.ofInt 64 allowed &&& requested == requested

def permissions (observed expected subject : String) : Comparison :=
  match Integer.int64? 8 observed.toList with
  | none => ⟨"Not numeric value - flag: " ++ observed, false⟩
  | some requested =>
      match Integer.int64? 8 expected.toList with
      | none => ⟨"Not numeric value - flag: " ++ expected, false⟩
      | some allowed =>
          ⟨subject ++ " has permissions " ++ observed ++ ", expected " ++ expected ++
            " or more restrictive", bitsAllowed requested allowed⟩

/-- A whole number with blanks around it. -/
def number? (text : String) : Option Int := Integer.int64? 10 (Text.trim text.toList)

/-- A comparison of numbers, which holds only between two numbers. -/
def numbers (holds : Int → Int → Bool) (relation : String) (observed expected subject : String) :
    Comparison :=
  match number? observed, number? expected with
  | some left, some right =>
      ⟨"'" ++ subject ++ "' is " ++ relation ++ " " ++ expected, holds left right⟩
  | _, _ =>
      ⟨"Invalid Number(s) used for comparison: '" ++ observed ++ "' '" ++ expected ++ "'", false⟩

/-- A pattern that cannot be read matches nothing. -/
def matchesPattern (observed expected : String) : Bool :=
  match Pattern.ofText? expected with
  | some pattern => pattern.matchesText observed
  | none => false

end Comparison

open Comparison in
/-- This compares `observed` with `expected`; `subject` names the observed value in words. -/
def Operator.compare (operator : Operator) (observed expected subject : String) : Comparison :=
  let about (relation : String) : String :=
    "'" ++ subject ++ "' " ++ relation ++ " '" ++ expected ++ "'"
  match operator with
  | equal => ⟨about "is equal to", looselyEqual observed expected⟩
  | notEqual => ⟨about "is not equal to", !looselyEqual observed expected⟩
  | greater => numbers (fun left right => right < left) "greater than" observed expected subject
  | greaterOrEqual =>
      numbers (fun left right => right ≤ left) "greater or equal to" observed expected subject
  | less => numbers (fun left right => left < right) "lower than" observed expected subject
  | lessOrEqual =>
      numbers (fun left right => left ≤ right) "lower or equal to" observed expected subject
  | has => ⟨about "has", Text.contains expected.toList observed.toList⟩
  | notHas => ⟨about "does not have", !Text.contains expected.toList observed.toList⟩
  | pattern => ⟨about "matched by regex expression", matchesPattern observed expected⟩
  | validElements =>
      ⟨about "contains valid elements from",
        elementsAllowed (elements observed) (elements expected)⟩
  | permissions => Comparison.permissions observed expected subject
  | unrecognized _ => ⟨"", false⟩

namespace Operator

/-- The operator holds between an observed and an expected value. -/
def Holds (operator : Operator) (subject observed expected : String) : Prop :=
  (operator.compare observed expected subject).result = true

@[simp] theorem ofName_name_of_known {operator : Operator}
    (known : ∀ name, operator ≠ unrecognized name) : ofName operator.name = operator := by
  cases operator <;> first | rfl | exact absurd rfl (known _)

theorem name_ofName (text : String) : (ofName text).name = text := by
  unfold ofName
  split <;> rfl

end Operator

end HostAudit
