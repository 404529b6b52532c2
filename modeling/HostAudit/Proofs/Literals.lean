import HostAudit.Number.Integer
import Mathlib.Data.Nat.Digits.Defs
import Mathlib.Tactic.Ring

/-
This file says which texts are literals of whole numbers: a sign or none, and then digits, which
count by their places from the right. Reading accepts the literals whose numbers have 64 bits, and
nothing else.
-/

namespace HostAudit.Integer

variable {base : Nat} {text digits : List Char} {value : Int}

/-- The value of a decimal digit. -/
def digitValue (c : Char) : Nat := c.toNat - '0'.toNat

/-- A digit of a base, which is ten at most. -/
def IsDigitOf (base : Nat) (c : Char) : Prop := isDigit c = true ∧ digitValue c < base

/-- The values of digits from the right. -/
def places (digits : List Char) : List Nat := digits.reverse.map digitValue

/-- The number that digits stand for. -/
def magnitude (base : Nat) (digits : List Char) : Nat := Nat.ofDigits base (places digits)

/-- The number that digits with a sign in front, or with none, stand for. -/
inductive Signed (base : Nat) (digits : List Char) : List Char → Int → Prop where
  | unsigned : Signed base digits digits (magnitude base digits)
  | positive : Signed base digits ('+' :: digits) (magnitude base digits)
  | negative : Signed base digits ('-' :: digits) (-magnitude base digits)

/-- The text is a literal with these digits, of this number of 64 bits. -/
structure Spells (base : Nat) (text digits : List Char) (value : Int) : Prop where
  given : digits ≠ []
  digitsOf : ∀ c ∈ digits, IsDigitOf base c
  signed : Signed base digits text value
  fits : -2 ^ 63 ≤ value ∧ value < 2 ^ 63

/-- The first digit counts most. -/
theorem magnitude_cons (c : Char) (digits : List Char) :
    magnitude base (c :: digits) =
      digitValue c * base ^ digits.length + magnitude base digits := by
  simp only [magnitude, places, List.reverse_cons, List.map_append, List.map_cons, List.map_nil,
    Nat.ofDigits_append, Nat.ofDigits_singleton, List.length_map, List.length_reverse]
  ring

theorem magnitude_singleton (c : Char) : magnitude base [c] = digitValue c :=
  Nat.ofDigits_singleton

/-- A digit at the end counts one, and the others a place more. -/
theorem magnitude_append_singleton (digits : List Char) (c : Char) :
    magnitude base (digits ++ [c]) = base * magnitude base digits + digitValue c := by
  simp only [magnitude, places, List.reverse_append, List.reverse_singleton, List.singleton_append,
    List.map_cons, Nat.ofDigits_cons]
  ring

/-- Letters are worth ten or more, so they are digits of larger bases only. -/
theorem digit?_eq_some_iff (small : base ≤ 10) {c : Char} {digit : Nat} :
    digit? base c = some digit ↔ IsDigitOf base c ∧ digitValue c = digit := by
  rw [digit?, IsDigitOf, isDigit, digitValue, Option.filter_eq_some_iff, decide_eq_true_eq,
    Bool.and_eq_true, decide_eq_true_eq, decide_eq_true_eq]
  split
  · rename_i decimal
    rw [Option.some.injEq]
    constructor
    · rintro ⟨rfl, below⟩
      exact ⟨⟨decimal, below⟩, rfl⟩
    · rintro ⟨⟨-, below⟩, rfl⟩
      exact ⟨rfl, below⟩
  · rename_i other
    constructor
    · rintro ⟨letter, below⟩
      split at letter
      · have worth := Option.some.inj letter
        omega
      · split at letter
        · have worth := Option.some.inj letter
          omega
        · cases letter
    · rintro ⟨⟨decimal, -⟩, -⟩
      exact absurd decimal other

/-- Digits are read on exactly if all of them belong to the base, and they add to the number so
far. -/
theorem extend?_eq_some_iff (small : base ≤ 10) {total number : Nat} :
    extend? base total digits = some number ↔
      (∀ c ∈ digits, IsDigitOf base c) ∧
        total * base ^ digits.length + magnitude base digits = number := by
  induction digits generalizing total with
  | nil => simp [extend?, magnitude, places]
  | cons c digits ih =>
      have placed (digit : Nat) :
          (base * total + digit) * base ^ digits.length + magnitude base digits =
            total * base ^ (digits.length + 1) +
              (digit * base ^ digits.length + magnitude base digits) := by
        ring
      rw [extend?, Option.bind_eq_some_iff, List.forall_mem_cons, magnitude_cons,
        List.length_cons]
      constructor
      · rintro ⟨digit, read, others⟩
        obtain ⟨isDigit, rfl⟩ := (digit?_eq_some_iff small).mp read
        obtain ⟨areDigits, rfl⟩ := ih.mp others
        exact ⟨⟨isDigit, areDigits⟩, (placed _).symm⟩
      · rintro ⟨⟨isDigit, areDigits⟩, rfl⟩
        exact ⟨_, (digit?_eq_some_iff small).mpr ⟨isDigit, rfl⟩, ih.mpr ⟨areDigits, placed _⟩⟩

/-- A number is read exactly of digits that belong to the base, and it is their magnitude. -/
theorem natural?_eq_some_iff (small : base ≤ 10) {number : Nat} :
    natural? base digits = some number ↔
      digits ≠ [] ∧ (∀ c ∈ digits, IsDigitOf base c) ∧ magnitude base digits = number := by
  cases digits with
  | nil => simp [natural?]
  | cons c digits => simp [natural?, extend?_eq_some_iff small]

/-- A number with a sign is read of its digits. -/
theorem map_natural?_eq_some_iff (small : base ≤ 10) {signed : Nat → Int} :
    (natural? base digits).map signed = some value ↔
      digits ≠ [] ∧ (∀ c ∈ digits, IsDigitOf base c) ∧
        signed (magnitude base digits) = value := by
  simp only [Option.map_eq_some_iff, natural?_eq_some_iff small]
  constructor
  · rintro ⟨_, ⟨given, areDigits, rfl⟩, same⟩
    exact ⟨given, areDigits, same⟩
  · rintro ⟨given, areDigits, same⟩
    exact ⟨_, ⟨given, areDigits, rfl⟩, same⟩

/-- A digit is no sign. -/
theorem natural?_eq_none_of_sign (small : base ≤ 10) {sign : Char} (noDigit : isDigit sign = false)
    (rest : List Char) : natural? base (sign :: rest) = none := by
  rw [Option.eq_none_iff_forall_ne_some]
  intro number read
  have digit := ((natural?_eq_some_iff small).mp read).2.1 sign List.mem_cons_self
  rw [digit.1] at noDigit
  cases noDigit

/-- A literal is read exactly if it is spelled with digits and perhaps a sign. -/
theorem signed?_eq_some_iff (small : base ≤ 10) :
    signed? base text = some value ↔
      ∃ digits, digits ≠ [] ∧ (∀ c ∈ digits, IsDigitOf base c) ∧
        Signed base digits text value := by
  constructor
  · intro read
    rw [signed?.eq_def] at read
    split at read
    · obtain ⟨given, areDigits, rfl⟩ := (map_natural?_eq_some_iff small).mp read
      exact ⟨_, given, areDigits, .positive⟩
    · obtain ⟨given, areDigits, rfl⟩ := (map_natural?_eq_some_iff small).mp read
      exact ⟨_, given, areDigits, .negative⟩
    · obtain ⟨given, areDigits, rfl⟩ := (map_natural?_eq_some_iff small).mp read
      exact ⟨_, given, areDigits, .unsigned⟩
  · rintro ⟨digits, given, areDigits, signed⟩
    have natural := (natural?_eq_some_iff small).mpr ⟨given, areDigits, rfl⟩
    cases signed with
    | positive => rw [signed?, natural]; rfl
    | negative => rw [signed?, natural]; rfl
    | unsigned =>
        have unsigned (sign : Char) (noDigit : isDigit sign = false) (rest : List Char) :
            text ≠ sign :: rest := by
          rintro rfl
          rw [natural?_eq_none_of_sign small noDigit] at natural
          cases natural
        rw [signed?.eq_3 _ _ (unsigned '+' rfl) (unsigned '-' rfl), natural]
        rfl

/-- A literal is read exactly if it is spelled and its value fits 64 bits. -/
theorem int64?_eq_some_iff (small : base ≤ 10) :
    int64? base text = some value ↔ ∃ digits, Spells base text digits value := by
  rw [int64?, Option.filter_eq_some_iff, signed?_eq_some_iff small]
  simp only [fitsSigned, Bool.and_eq_true, decide_eq_true_eq]
  constructor
  · rintro ⟨⟨digits, given, areDigits, signed⟩, fits⟩
    exact ⟨digits, given, areDigits, signed, fits⟩
  · rintro ⟨digits, given, areDigits, signed, fits⟩
    exact ⟨⟨digits, given, areDigits, signed⟩, fits⟩

/-- A number that is not negative is that of its digits, whatever the sign. -/
theorem Signed.eq_magnitude (signed : Signed base digits text value) (positive : 0 ≤ value) :
    value = magnitude base digits := by
  cases signed with
  | unsigned => rfl
  | positive => rfl
  | negative => omega

end HostAudit.Integer
