import HostAudit.Number.Decimal
import HostAudit.Proofs.Numerals
import Mathlib.Data.List.TakeWhile

/-
This file says how binary64 values are ordered, and that whole numbers up to 2 ^ 53 are read as the
values that stand for them exactly, so that these are in the order of the numbers.
-/

namespace HostAudit

namespace Double

variable {x y : Double} {num den mantissa shift : Nat}

/-- The total order of binary64 values. A value with a minus sign stands before one without. Of two
with a minus sign, the one of more magnitude stands first, and of two without, the one of less. -/
inductive Before (x y : Double) : Prop where
  | signs (minus : x.negative = true) (plus : y.negative = false)
  | negative (minus : x.negative = true) (also : y.negative = true)
      (more : y.magnitude < x.magnitude)
  | positive (plus : x.negative = false) (also : y.negative = false)
      (less : x.magnitude < y.magnitude)

/-- A negative double has a negative key. -/
theorem orderKey_of_minus (minus : x.negative = true) : x.orderKey = -1 - x.magnitude := by
  simp [orderKey, minus]

/-- The key of another double is its magnitude. -/
theorem orderKey_of_plus (plus : x.negative = false) : x.orderKey = x.magnitude := by
  simp [orderKey, plus]

/-- Doubles are in the order of their keys. -/
theorem before_iff : x.Before y ↔ x.orderKey < y.orderKey := by
  constructor
  · intro before
    cases before with
    | signs minus plus =>
        rw [orderKey_of_minus minus, orderKey_of_plus plus]
        omega
    | negative minus also more =>
        rw [orderKey_of_minus minus, orderKey_of_minus also]
        omega
    | positive plus also less =>
        rw [orderKey_of_plus plus, orderKey_of_plus also]
        omega
  · intro less
    cases left : x.negative with
    | false =>
        cases right : y.negative with
        | false =>
            rw [orderKey_of_plus left, orderKey_of_plus right] at less
            exact .positive left right (by omega)
        | true =>
            rw [orderKey_of_plus left, orderKey_of_minus right] at less
            omega
    | true =>
        cases right : y.negative with
        | false => exact .signs left right
        | true =>
            rw [orderKey_of_minus left, orderKey_of_minus right] at less
            exact .negative left right (by omega)

/-- Doubles with negative keys are the negative ones. -/
theorem negative_iff : x.negative = true ↔ x.orderKey < 0 := by
  cases sign : x.negative with
  | false =>
      rw [orderKey_of_plus sign]
      simp
  | true =>
      rw [orderKey_of_minus sign]
      simp only [true_iff]
      omega

/-- No two doubles have the same key. -/
theorem orderKey_inj : x.orderKey = y.orderKey ↔ x = y := by
  refine ⟨fun same => ?_, congrArg orderKey⟩
  have signs : x.negative = y.negative := by
    rw [Bool.eq_iff_iff, negative_iff, negative_iff, same]
  have magnitudes : x.magnitude = y.magnitude := by
    cases sign : y.negative with
    | false =>
        rw [orderKey_of_plus (signs.trans sign), orderKey_of_plus sign] at same
        omega
    | true =>
        rw [orderKey_of_minus (signs.trans sign), orderKey_of_minus sign] at same
        omega
  cases x
  cases signs
  cases magnitudes
  rfl

section Units

/-- A mantissa has 53 bits at most. -/
theorem mantissa_lt (x : Double) : x.mantissa < 2 ^ 53 := by
  unfold mantissa
  split <;> omega

/-- A magnitude counts the values up to it: as many for each shift, and then the mantissa. -/
theorem magnitude_eq (x : Double) :
    x.magnitude = x.shift * 2 ^ 52 + x.mantissa ∧ (x.shift ≠ 0 → 2 ^ 52 ≤ x.mantissa) := by
  unfold shift mantissa
  split <;> omega

/-- A greater magnitude stands for more units. -/
theorem units_lt_units (less : x.magnitude < y.magnitude) : x.units < y.units := by
  obtain ⟨first, -⟩ := x.magnitude_eq
  obtain ⟨second, normal⟩ := y.magnitude_eq
  have small := x.mantissa_lt
  have bound := y.mantissa_lt
  rcases Nat.lt_trichotomy x.shift y.shift with lower | same | higher
  · have large := normal (by omega)
    calc x.units < 2 ^ 53 * 2 ^ x.shift := Nat.mul_lt_mul_of_pos_right small (Nat.two_pow_pos _)
      _ = 2 ^ 52 * 2 ^ (x.shift + 1) := by rw [Nat.pow_succ' (n := x.shift)]; omega
      _ ≤ 2 ^ 52 * 2 ^ y.shift := Nat.mul_le_mul_left _ (Nat.pow_le_pow_right (by decide) lower)
      _ ≤ y.units := Nat.mul_le_mul_right _ large
  · have fewer : x.mantissa < y.mantissa := by omega
    rw [units, units, same]
    exact Nat.mul_lt_mul_of_pos_right fewer (Nat.two_pow_pos _)
  · have large := x.magnitude_eq.2 (by omega)
    omega

/-- Magnitudes are in the order of the units they stand for. -/
theorem units_lt_units_iff : x.units < y.units ↔ x.magnitude < y.magnitude := by
  refine ⟨fun less => ?_, units_lt_units⟩
  rcases Nat.lt_trichotomy x.magnitude y.magnitude with lower | same | higher
  · exact lower
  · rw [units, units, mantissa, mantissa, shift, shift, same] at less
    exact absurd less (Nat.lt_irrefl _)
  · exact absurd less (Nat.lt_asymm (units_lt_units higher))

end Units

section Rounding

/-- A quotient without a rest is not rounded. -/
theorem divRound_mul (positive : 0 < den) (quotient : Nat) :
    divRound (quotient * den) den = quotient := by
  simp [divRound, Nat.mul_div_cancel _ positive, positive]

/-- A ratio that is the value of a magnitude is rounded to it. -/
theorem nearestMagnitude_of_exact (positive : 0 < den) (normal : 2 ^ 52 ≤ mantissa)
    (small : mantissa < 2 ^ 53) (exact : num * 2 ^ 1074 = mantissa * 2 ^ shift * den) :
    nearestMagnitude num den = shift * 2 ^ 52 + mantissa := by
  have whole : num * 2 ^ 1074 / den = mantissa * 2 ^ shift := by
    rw [exact, Nat.mul_div_cancel _ positive]
  have digits : Nat.log2 (mantissa * 2 ^ shift) = 52 + shift := by
    have power := Nat.two_pow_pos shift
    rw [Nat.log2_eq_iff (by positivity), Nat.pow_add, Nat.add_right_comm, Nat.pow_add]
    exact ⟨Nat.mul_le_mul_right _ normal, Nat.mul_lt_mul_of_pos_right small power⟩
  have rounded : divRound (num * 2 ^ 1074) (den * 2 ^ shift) = mantissa := by
    rw [exact, Nat.mul_assoc, Nat.mul_comm (2 ^ shift)]
    exact divRound_mul (by positivity) mantissa
  simp only [nearestMagnitude, whole, digits, Nat.add_sub_cancel_left, rounded]

/-- A normal double stands for its mantissa, shifted. -/
theorem units_of_normal (negative : Bool) (normal : 2 ^ 52 ≤ mantissa)
    (small : mantissa < 2 ^ 53) :
    (⟨negative, shift * 2 ^ 52 + mantissa⟩ : Double).units = mantissa * 2 ^ shift := by
  have large : ¬ shift * 2 ^ 52 + mantissa < 2 ^ 52 := by omega
  have rest : 2 ^ 52 + (shift * 2 ^ 52 + mantissa) % 2 ^ 52 = mantissa := by omega
  have power : (shift * 2 ^ 52 + mantissa) / 2 ^ 52 - 1 = shift := by omega
  rw [units, Double.mantissa, Double.shift, if_neg large, rest, power]

/-- A whole number up to 2 ^ 53 has few enough binary digits for a mantissa, in any unit. -/
theorem exists_mantissa {value : Nat} (positive : 0 < value) (bounded : value ≤ 2 ^ 53)
    {unit : Nat} (fine : 52 ≤ unit) :
    ∃ mantissa shift, 2 ^ 52 ≤ mantissa ∧ mantissa < 2 ^ 53 ∧ shift ≤ unit + 1 ∧
      value * 2 ^ unit = mantissa * 2 ^ shift := by
  rcases Nat.lt_or_eq_of_le bounded with less | rfl
  · obtain ⟨lower, upper⟩ := (Nat.log2_eq_iff (by omega)).mp (rfl : value.log2 = value.log2)
    have few : value.log2 ≤ 52 := Nat.le_of_lt_succ ((Nat.log2_lt (by omega)).mpr less)
    have power : 2 ^ value.log2 * 2 ^ (52 - value.log2) = 2 ^ 52 := by
      rw [← Nat.pow_add, Nat.add_sub_of_le few]
    have room := Nat.two_pow_pos (52 - value.log2)
    refine ⟨value * 2 ^ (52 - value.log2), value.log2 + (unit - 52), ?_, ?_, by omega, ?_⟩
    · rw [← power]
      exact Nat.mul_le_mul_right _ lower
    · have shifted := Nat.mul_lt_mul_of_pos_right upper room
      rw [Nat.pow_succ', Nat.mul_assoc, power] at shifted
      exact shifted
    · rw [Nat.mul_assoc, ← Nat.pow_add]
      congr 2
      omega
  · refine ⟨2 ^ 52, unit + 1, Nat.le_refl _, by decide, Nat.le_refl _, ?_⟩
    rw [← Nat.pow_add, ← Nat.pow_add, Nat.add_comm unit, ← Nat.add_assoc]

/-- The value stands for a whole number exactly. Zero has no minus sign. -/
structure StandsFor (x : Double) (value : Int) : Prop where
  negative : x.negative = true ↔ value < 0
  units : x.units = value.natAbs * 2 ^ 1074
  finite : x.magnitude < infinityMagnitude

/-- A whole number of 53 bits at most is not rounded. -/
theorem standsFor_ofRatio {value : Int} (nonzero : value ≠ 0) (bounded : value.natAbs ≤ 2 ^ 53) :
    (ofRatio (value < 0) value.natAbs 1).StandsFor value := by
  obtain ⟨mantissa, shift, normal, small, limit, exact⟩ :=
    exists_mantissa (Int.natAbs_pos.mpr nonzero) bounded (show 52 ≤ 1074 by decide)
  have nearest : nearestMagnitude value.natAbs 1 = shift * 2 ^ 52 + mantissa :=
    nearestMagnitude_of_exact Nat.one_pos normal small (by rw [exact, Nat.mul_one])
  have finite : shift * 2 ^ 52 + mantissa < infinityMagnitude := by
    unfold infinityMagnitude
    omega
  rw [ofRatio, nearest, Nat.min_eq_left (Nat.le_of_lt finite)]
  exact ⟨decide_eq_true_iff, (units_of_normal _ normal small).trans exact.symm, finite⟩

/-- Zero stands for zero. -/
theorem standsFor_zero : (zero false).StandsFor 0 := by
  have none (unit : Nat) : (zero false).units = (0 : Int).natAbs * unit := (Nat.zero_mul unit).symm
  exact ⟨by decide, none _, by decide⟩

end Rounding

namespace StandsFor

variable {first second : Int}

/-- Magnitudes are in the order of the numbers they stand for. -/
theorem magnitude_lt_iff (left : x.StandsFor first) (right : y.StandsFor second) :
    x.magnitude < y.magnitude ↔ first.natAbs < second.natAbs := by
  rw [← units_lt_units_iff, left.units, right.units]
  exact Nat.mul_lt_mul_right (Nat.two_pow_pos 1074)

/-- Values that stand for whole numbers are in the order of the numbers. -/
theorem before_iff (left : x.StandsFor first) (right : y.StandsFor second) :
    x.Before y ↔ first < second := by
  have plus {x : Double} {value : Int} (stands : x.StandsFor value) :
      x.negative = false ↔ 0 ≤ value := by
    rw [← Bool.not_eq_true, stands.negative, Int.not_lt]
  constructor
  · intro before
    cases before with
    | signs minus also =>
        have lower := left.negative.mp minus
        have upper := (plus right).mp also
        omega
    | negative minus also more =>
        have signs := left.negative.mp minus
        have also := right.negative.mp also
        have less := (right.magnitude_lt_iff left).mp more
        omega
    | positive _ also less =>
        have upper := (plus right).mp also
        have less := (left.magnitude_lt_iff right).mp less
        omega
  · intro less
    by_cases minus : first < 0
    · by_cases also : second < 0
      · refine .negative (left.negative.mpr minus) (right.negative.mpr also) ?_
        rw [right.magnitude_lt_iff left]
        omega
      · exact .signs (left.negative.mpr minus) ((plus right).mpr (by omega))
    · refine .positive ((plus left).mpr (by omega)) ((plus right).mpr (by omega)) ?_
      rw [left.magnitude_lt_iff right]
      omega

/-- A double stands for one number. -/
theorem unique (left : x.StandsFor first) (right : x.StandsFor second) : first = second := by
  have irreflexive {lower upper : Int} (one : x.StandsFor lower) (other : x.StandsFor upper) :
      ¬ lower < upper := by
    rw [← one.before_iff other, Double.before_iff]
    exact Int.lt_irrefl _
  have notBelow := irreflexive left right
  have notAbove := irreflexive right left
  omega

/-- Infinity stands behind all whole numbers. -/
theorem before_infinity (stands : x.StandsFor first) : x.Before (infinity false) := by
  cases minus : x.negative with
  | false => exact .positive minus rfl stands.finite
  | true => exact .signs minus rfl

end StandsFor

end Double

namespace Integer

/-- A digit is no letter. -/
theorem lower_of_isDigit {c : Char} (digit : isDigit c = true) : Decimal.lower c = c := by
  have range : '0' ≤ c ∧ c ≤ '9' := by simpa [isDigit] using digit
  have upper : c.val.toNat ≤ 57 := range.2
  apply dif_neg
  intro letter
  have lower : 65 ≤ c.val.toNat := letter.1
  omega

end Integer

namespace Decimal

open Integer (naturalChars isDigit)

/-- The digits of a number are read as the number. -/
theorem read?_naturalChars (value : Nat) : read? (naturalChars value) = some ⟨value, 0⟩ := by
  have digits : ∀ c ∈ naturalChars value, isDigit c = true := fun _ => Integer.isDigit_of_mem
  have whole : (naturalChars value).takeWhile isDigit = naturalChars value :=
    List.takeWhile_eq_self_iff.mpr digits
  have rest : (naturalChars value).dropWhile isDigit = [] :=
    List.dropWhile_eq_nil_iff.mpr digits
  have read : Integer.natural? 10 (naturalChars value) = some value :=
    (Integer.natural?_eq_some_iff (by decide)).mpr
      ⟨Integer.naturalChars_ne_nil value,
        fun c member => Integer.isDigitOf_ten_iff.mpr (digits c member),
        Integer.magnitude_naturalChars value⟩
  simp [read?, whole, rest, read, exponent?]

/-- Digits are read as a number, and as no word. -/
theorem readDouble?_naturalChars (minus : Bool) (value : Nat) {text : List Char}
    (signed : takeSign text = (minus, naturalChars value)) :
    readDouble? text = some (toDouble minus ⟨value, 0⟩) := by
  obtain ⟨c, rest, given⟩ := List.exists_cons_of_ne_nil (Integer.naturalChars_ne_nil value)
  have digit : isDigit c = true := Integer.isDigit_of_mem (given ▸ List.mem_cons_self)
  have other {letter : Char} (noDigit : isDigit letter = false) (word : List Char) :
      String.ofList ((naturalChars value).map lower) ≠ String.ofList (letter :: word) := by
    rw [given, List.map_cons, Integer.lower_of_isDigit digit, Ne, String.ofList_inj]
    intro same
    exact Integer.isDigit_ne digit noDigit (List.cons.inj same).1
  rw [readDouble?, signed]
  simp only [read?_naturalChars, Option.map_some]
  rw [if_neg (other rfl ['a', 'n']), if_neg]
  rintro (short | long)
  · exact other rfl ['n', 'f'] short
  · exact other rfl "nfinity".toList long

/-- The digits of a number have no sign. -/
theorem takeSign_naturalChars (value : Nat) :
    takeSign (naturalChars value) = (false, naturalChars value) := by
  have noSign {sign : Char} (noDigit : isDigit sign = false) (rest : List Char) :
      naturalChars value ≠ sign :: rest := by
    intro same
    have digit : isDigit sign = true := Integer.isDigit_of_mem (same ▸ List.mem_cons_self)
    exact Integer.isDigit_ne digit noDigit rfl
  exact takeSign.eq_3 _ (noSign rfl) (noSign rfl)

/-- A whole number that is written with digits is a double without rounding. -/
theorem toDouble_whole (minus : Bool) {value : Nat} (positive : 0 < value)
    (bounded : value ≤ 2 ^ 53) : toDouble minus ⟨value, 0⟩ = Double.ofRatio minus value 1 := by
  have few : (naturalChars value).length ≤ 16 :=
    (Nat.length_toDigits_le_iff (by decide) (by decide)).mpr (by omega)
  have near : (⟨value, 0⟩ : Decimal).point = (naturalChars value).length := Int.add_zero _
  simp only [toDouble, near]
  rw [if_neg (by omega), if_neg (by omega), if_pos (Int.le_refl 0), Int.toNat_zero, Nat.pow_zero,
    Nat.mul_one]

/-- A whole number up to 2 ^ 53 is read as the value that stands for it. -/
theorem readDouble?_chars {value : Int} (bounded : value.natAbs ≤ 2 ^ 53) :
    ∃ x, readDouble? (Integer.chars value) = some x ∧ x.StandsFor value := by
  by_cases nonzero : value = 0
  · subst nonzero
    exact ⟨_, readDouble?_naturalChars false 0 (takeSign_naturalChars 0), Double.standsFor_zero⟩
  · have stands := Double.standsFor_ofRatio nonzero bounded
    rw [← toDouble_whole _ (Int.natAbs_pos.mpr nonzero) bounded] at stands
    refine ⟨_, readDouble?_naturalChars _ _ ?_, stands⟩
    cases value with
    | ofNat value => exact takeSign_naturalChars value
    | negSucc value =>
        rw [decide_eq_true (Int.negSucc_lt_zero value)]
        rfl

end Decimal

end HostAudit
