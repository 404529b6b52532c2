import HostAudit.Proofs.Literals
import HostAudit.Text.Blank

/-
This file says what whole numbers are written with, and that they are read as they were written.
-/

namespace HostAudit.Integer

/-- A number has digits. -/
theorem naturalChars_ne_nil (value : Nat) : naturalChars value ≠ [] := Nat.toDigits_ne_nil

/-- A number is written with digits only. -/
theorem isDigit_of_mem {value : Nat} {c : Char} (member : c ∈ naturalChars value) :
    isDigit c = true := by
  have digit : c.isDigit = true := Nat.isDigit_of_mem_toDigits (by decide) (by decide) member
  simpa [isDigit, Char.isDigit, Char.le_def] using digit

/-- A character that is no digit is not among the digits. -/
theorem isDigit_ne {c other : Char} (digit : isDigit c = true) (noDigit : isDigit other = false) :
    c ≠ other := by
  rintro rfl
  rw [digit] at noDigit
  cases noDigit

/-- Only zero is written with a zero in front. -/
theorem head?_naturalChars {value : Nat} (positive : 0 < value) :
    (naturalChars value).head? ≠ some '0' := by
  induction value using Nat.strongRecOn with
  | ind value ih =>
      rw [naturalChars, Nat.toDigits_eq_if (by decide)]
      split
      · rename_i small
        have different : ∀ digit < 10, 0 < digit → Nat.digitChar digit ≠ '0' := by decide
        simpa using different value small positive
      · rename_i large
        rw [List.head?_append, Option.or_of_isSome (by simp [Nat.toDigits_ne_nil])]
        exact ih (value / 10) (by omega) (by omega)

/-- A number begins with its sign or a digit, and goes on with digits. -/
theorem mem_chars {value : Int} {c : Char} (member : c ∈ chars value) :
    c = '-' ∨ isDigit c = true := by
  cases value with
  | ofNat value => exact .inr (isDigit_of_mem member)
  | negSucc value => exact (List.mem_cons.mp member).imp_right isDigit_of_mem

/-- No number is written as nothing. -/
theorem chars_ne_nil (value : Int) : chars value ≠ [] := by
  cases value with
  | ofNat value => exact naturalChars_ne_nil value
  | negSucc value => exact List.cons_ne_nil _ _

/-- Digits are not blank. -/
theorem isBlank_of_isDigit {c : Char} (digit : isDigit c = true) : Text.isBlank c = false := by
  have range : '0' ≤ c ∧ c ≤ '9' := by simpa [isDigit] using digit
  rw [Bool.eq_false_iff]
  intro blank
  simp only [Char.le_def, UInt32.le_iff_toNat_le] at range
  simp only [Text.isBlank, Bool.or_eq_true, Bool.and_eq_true, decide_eq_true_eq, beq_iff_eq,
    UInt32.le_iff_toNat_le, ← UInt32.toNat_inj, UInt32.reduceToNat] at blank
  change 48 ≤ c.val.toNat ∧ c.val.toNat ≤ 57 at range
  omega

/-- The digits of base ten are the decimal digits. -/
theorem isDigitOf_ten_iff {c : Char} : IsDigitOf 10 c ↔ isDigit c = true := by
  refine and_iff_left_of_imp fun digit => ?_
  have range : '0' ≤ c ∧ c ≤ '9' := by simpa [isDigit] using digit
  have upper : c.toNat ≤ '9'.toNat := range.2
  exact Nat.sub_lt_left_of_lt_add range.1 (Nat.lt_succ_of_le upper)

/-- The digits that a number is written with are worth the number. -/
theorem magnitude_naturalChars (value : Nat) : magnitude 10 (naturalChars value) = value := by
  have worth : ∀ digit < 10, digitValue (Nat.digitChar digit) = digit := by decide
  induction value using Nat.strongRecOn with
  | ind value ih =>
      rw [naturalChars, Nat.toDigits_eq_if (by decide)]
      split
      · rename_i small
        rw [magnitude_singleton, worth value small]
      · rename_i large
        have shorter : magnitude 10 (Nat.toDigits 10 (value / 10)) = value / 10 :=
          ih (value / 10) (by omega)
        rw [magnitude_append_singleton, shorter, worth (value % 10) (Nat.mod_lt value (by decide)),
          Nat.div_add_mod]

/-- A number is read as it was written. -/
theorem signed?_chars (value : Int) : signed? 10 (chars value) = some value := by
  have areDigits (value : Nat) : ∀ c ∈ naturalChars value, IsDigitOf 10 c := fun _ member =>
    isDigitOf_ten_iff.mpr (isDigit_of_mem member)
  have signed : Signed 10 (naturalChars value.natAbs) (chars value) value := by
    cases value with
    | ofNat value =>
        have written : Signed 10 (naturalChars value) (naturalChars value) _ := .unsigned
        rwa [magnitude_naturalChars] at written
    | negSucc value =>
        have written : Signed 10 (naturalChars (value + 1)) ('-' :: naturalChars (value + 1)) _ :=
          .negative
        rwa [magnitude_naturalChars] at written
  exact (signed?_eq_some_iff (by decide)).mpr
    ⟨naturalChars value.natAbs, naturalChars_ne_nil _, areDigits _, signed⟩

/-- A number of 64 bits is read as it was written. -/
theorem int64?_chars {value : Int} (fits : fitsSigned value = true) :
    int64? 10 (chars value) = some value := by
  rw [int64?, signed?_chars]
  simp [fits]

end HostAudit.Integer
