import HostAudit.Comparison
import HostAudit.Proofs.Literals
import HostAudit.Proofs.Numerals

/-
This file says when texts are in order as numbers. The operators that compare numbers hold between
decimal literals by the order of the integers, with any blanks around the literals, and they hold
between no other texts.
-/

namespace HostAudit

/-- The operators that compare numbers, each with its relation. -/
inductive Operator.Orders : Operator → (Int → Int → Prop) → Prop where
  | greater : Orders .greater (· > ·)
  | greaterOrEqual : Orders .greaterOrEqual (· ≥ ·)
  | less : Orders .less (· < ·)
  | lessOrEqual : Orders .lessOrEqual (· ≤ ·)

namespace Integer

variable {base : Nat} {literal digits : List Char} {value : Int}

/-- There are no blanks in a number. -/
theorem Spells.solid (spells : Spells base literal digits value) :
    ∀ c ∈ literal, Text.isBlank c = false := by
  have solid : ∀ c ∈ digits, Text.isBlank c = false := fun c among =>
    isBlank_of_isDigit (spells.digitsOf c among).1
  cases spells.signed with
  | unsigned => exact solid
  | positive => exact List.forall_mem_cons.mpr ⟨rfl, solid⟩
  | negative => exact List.forall_mem_cons.mpr ⟨rfl, solid⟩

/-- Trimming leaves a number as it is. -/
theorem Spells.trim_eq (spells : Spells base literal digits value) : Text.trim literal = literal :=
  Text.trim_of_solid (fun c first => spells.solid c (List.mem_of_mem_head? first))
    fun c last => spells.solid c (List.mem_of_mem_getLast? last)

end Integer

namespace Comparison

open Integer (Spells)

/-- The text is a decimal literal of a number of 64 bits, with any blanks around it. -/
def Numeral (text : String) (value : Int) : Prop :=
  ∃ before literal after digits, text.toList = before ++ (literal ++ after) ∧
    (∀ c ∈ before, Text.isBlank c = true) ∧ (∀ c ∈ after, Text.isBlank c = true) ∧
    Spells 10 literal digits value

section Reading

variable {text observed expected : String} {value first second : Int} {holds : Int → Int → Bool}
  {words : String}

/-- The numbers that are read are the numerals. -/
theorem number?_eq_some_iff : number? text = some value ↔ Numeral text value := by
  rw [number?, Integer.int64?_eq_some_iff (by decide)]
  constructor
  · rintro ⟨digits, spells⟩
    obtain ⟨before, after, split, leading, trailing⟩ := Text.exists_margins text.toList
    exact ⟨before, _, after, digits, split, leading, trailing, spells⟩
  · rintro ⟨before, literal, after, digits, split, leading, trailing, spells⟩
    refine ⟨digits, ?_⟩
    rw [split, Text.trim_append leading trailing, spells.trim_eq]
    exact spells

/-- What is not read as a number is no numeral. -/
theorem number?_eq_none_iff : number? text = none ↔ ∀ value, ¬ Numeral text value := by
  simp only [Option.eq_none_iff_forall_ne_some, ne_eq, number?_eq_some_iff]

/-- A numeral stands for one number. -/
theorem Numeral.unique (one : Numeral text first) (other : Numeral text second) :
    first = second :=
  Option.some.inj ((number?_eq_some_iff.mpr one).symm.trans (number?_eq_some_iff.mpr other))

/-- Where one side is no number, the comparison fails and names both sides. -/
theorem numbers_of_not_numeral
    (bad : (∀ value, ¬ Numeral observed value) ∨ ∀ value, ¬ Numeral expected value)
    (subject : String) :
    numbers holds words observed expected subject =
      ⟨"Invalid Number(s) used for comparison: '" ++ observed ++ "' '" ++ expected ++ "'",
        false⟩ := by
  rw [numbers]
  rcases bad with bad | bad
  · rw [number?_eq_none_iff.mpr bad]
  · rw [number?_eq_none_iff.mpr bad]
    cases number? observed <;> rfl

/-- Numbers are compared by what they are worth. -/
theorem numbers_of_numeral (observedNumeral : Numeral observed first)
    (expectedNumeral : Numeral expected second) (subject : String) :
    (numbers holds words observed expected subject).result = holds first second := by
  rw [numbers, number?_eq_some_iff.mpr observedNumeral, number?_eq_some_iff.mpr expectedNumeral]

end Reading

end Comparison

namespace Operator.Orders

open Comparison (Numeral)

variable {operator : Operator} {relation : Int → Int → Prop} {observed expected : String}
  {first second third : Int}

/-- The operators that compare numbers differ in their relations and words only. -/
theorem exists_numbers (orders : operator.Orders relation) :
    ∃ holds words, operator.compare = Comparison.numbers holds words ∧
      ∀ first second, holds first second = true ↔ relation first second := by
  cases orders with
  | greater => exact ⟨_, _, rfl, fun _ _ => decide_eq_true_iff⟩
  | greaterOrEqual => exact ⟨_, _, rfl, fun _ _ => decide_eq_true_iff⟩
  | less => exact ⟨_, _, rfl, fun _ _ => decide_eq_true_iff⟩
  | lessOrEqual => exact ⟨_, _, rfl, fun _ _ => decide_eq_true_iff⟩

/-- An order does not hold of what is no number, and the report says so. -/
theorem compare_of_not_numeral (orders : operator.Orders relation)
    (bad : (∀ value, ¬ Numeral observed value) ∨ ∀ value, ¬ Numeral expected value)
    (subject : String) :
    operator.compare observed expected subject =
      ⟨"Invalid Number(s) used for comparison: '" ++ observed ++ "' '" ++ expected ++ "'",
        false⟩ := by
  obtain ⟨holds, words, compares, -⟩ := orders.exists_numbers
  rw [compares, Comparison.numbers_of_not_numeral bad]

/-- An order holds between numerals exactly if it holds between their numbers. -/
theorem holds_of_numeral (orders : operator.Orders relation)
    (observedNumeral : Numeral observed first) (expectedNumeral : Numeral expected second)
    (subject : String) : operator.Holds subject observed expected ↔ relation first second := by
  obtain ⟨holds, words, compares, related⟩ := orders.exists_numbers
  rw [Holds, compares, Comparison.numbers_of_numeral observedNumeral expectedNumeral, related]

/-- What is in order are numbers. -/
theorem holds_iff (orders : operator.Orders relation) (subject observed expected : String) :
    operator.Holds subject observed expected ↔
      ∃ first second, Numeral observed first ∧ Numeral expected second ∧
        relation first second := by
  constructor
  · intro holds
    have fails (bad : (∀ value, ¬ Numeral observed value) ∨ ∀ value, ¬ Numeral expected value) :
        False := by
      rw [Holds, orders.compare_of_not_numeral bad] at holds
      cases holds
    obtain ⟨first, observedNumeral⟩ : ∃ first, Numeral observed first := by
      by_contra bad
      exact fails (.inl (not_exists.mp bad))
    obtain ⟨second, expectedNumeral⟩ : ∃ second, Numeral expected second := by
      by_contra bad
      exact fails (.inr (not_exists.mp bad))
    exact ⟨first, second, observedNumeral, expectedNumeral,
      (orders.holds_of_numeral observedNumeral expectedNumeral subject).mp holds⟩
  · rintro ⟨first, second, observedNumeral, expectedNumeral, related⟩
    exact (orders.holds_of_numeral observedNumeral expectedNumeral subject).mpr related

/-- Each of the four orders is transitive. -/
theorem relation_trans (orders : operator.Orders relation) (lower : relation first second)
    (upper : relation second third) : relation first third := by
  cases orders with
  | greater => exact Int.lt_trans upper lower
  | greaterOrEqual => exact Int.le_trans upper lower
  | less => exact Int.lt_trans lower upper
  | lessOrEqual => exact Int.le_trans lower upper

end Operator.Orders

namespace Comparison

open Operator (Orders)

/-- An operator that compares numbers holds between decimal literals by the order of the integers.
So two of the operators are the opposites of the others, two of them hold of equal values, the
operands can be swapped, and what is in order one after another is in order. All four fail in the
same words if one of the texts is no such literal. -/
theorem orders_hold_between_numbers (subject : String) :
    (∀ operator relation, Orders operator relation →
      ∀ observed expected first second, Numeral observed first → Numeral expected second →
        (operator.Holds subject observed expected ↔ relation first second)) ∧
    (∀ observed expected first second, Numeral observed first → Numeral expected second →
      (Operator.greater.Holds subject observed expected ↔
        ¬ Operator.lessOrEqual.Holds subject observed expected) ∧
      (Operator.less.Holds subject observed expected ↔
        ¬ Operator.greaterOrEqual.Holds subject observed expected) ∧
      (Operator.greaterOrEqual.Holds subject observed expected ∧
        Operator.lessOrEqual.Holds subject observed expected ↔ first = second)) ∧
    (∀ observed expected,
      (Operator.greater.Holds subject observed expected ↔
        Operator.less.Holds subject expected observed) ∧
      (Operator.greaterOrEqual.Holds subject observed expected ↔
        Operator.lessOrEqual.Holds subject expected observed)) ∧
    (∀ operator relation, Orders operator relation → ∀ first second third,
      operator.Holds subject first second → operator.Holds subject second third →
      operator.Holds subject first third) ∧
    (∀ operator relation, Orders operator relation → ∀ observed expected,
      (∀ value, ¬ Numeral observed value) ∨ (∀ value, ¬ Numeral expected value) →
      operator.compare observed expected subject =
        ⟨"Invalid Number(s) used for comparison: '" ++ observed ++ "' '" ++ expected ++ "'",
          false⟩) := by
  refine ⟨?order, ?opposites, ?swapped, ?trans, ?bad⟩
  case order =>
    intro operator relation orders observed expected first second observedNumeral expectedNumeral
    exact orders.holds_of_numeral observedNumeral expectedNumeral subject
  case opposites =>
    intro observed expected first second observedNumeral expectedNumeral
    have order {operator : Operator} {relation : Int → Int → Prop}
        (orders : Orders operator relation) :
        operator.Holds subject observed expected ↔ relation first second :=
      orders.holds_of_numeral observedNumeral expectedNumeral subject
    rw [order .greater, order .greaterOrEqual, order .less, order .lessOrEqual]
    exact ⟨Int.not_le.symm, Int.not_le.symm, by omega⟩
  case swapped =>
    intro observed expected
    constructor
    · rw [Orders.greater.holds_iff, Orders.less.holds_iff, exists_comm]
      exact exists₂_congr fun _ _ => and_left_comm
    · rw [Orders.greaterOrEqual.holds_iff, Orders.lessOrEqual.holds_iff, exists_comm]
      exact exists₂_congr fun _ _ => and_left_comm
  case trans =>
    intro operator relation orders first second third lower upper
    obtain ⟨least, middle, leastNumeral, middleNumeral, lower⟩ := (orders.holds_iff ..).mp lower
    obtain ⟨same, greatest, sameNumeral, greatestNumeral, upper⟩ := (orders.holds_iff ..).mp upper
    obtain rfl := middleNumeral.unique sameNumeral
    exact (orders.holds_of_numeral leastNumeral greatestNumeral subject).mpr
      (orders.relation_trans lower upper)
  case bad =>
    intro operator relation orders observed expected bad
    exact orders.compare_of_not_numeral bad subject

/-- The greatest number of 64 bits is compared, and the next one is not. -/
theorem orders_hold_between_numbers_greatest :
    Orders .less (· < ·) ∧
    Numeral " +007\n" 7 ∧ Numeral "9223372036854775807" (2 ^ 63 - 1) ∧
    (∀ value, ¬ Numeral "9223372036854775808" value) ∧
    Operator.less.Holds "size" " +007\n" "9223372036854775807" ∧
    Operator.greater.Holds "size" "9223372036854775807" " +007\n" ∧
    Operator.less.compare " +007\n" "9223372036854775808" "size" =
      ⟨"Invalid Number(s) used for comparison: ' +007\n' '9223372036854775808'", false⟩ := by
  have seven : Numeral " +007\n" 7 := number?_eq_some_iff.mp (by decide)
  have greatest : Numeral "9223372036854775807" (2 ^ 63 - 1) := number?_eq_some_iff.mp (by decide)
  have bad : ∀ value, ¬ Numeral "9223372036854775808" value := number?_eq_none_iff.mp (by decide)
  obtain ⟨order, -, swapped, -, fails⟩ := orders_hold_between_numbers "size"
  have less := (order _ _ .less _ _ _ _ seven greatest).mpr (by decide)
  exact ⟨.less, seven, greatest, bad, less, (swapped _ _).1.mpr less,
    fails _ _ .less _ _ (.inr bad)⟩

end Comparison

end HostAudit
