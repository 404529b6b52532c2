import HostAudit.Comparison
import HostAudit.Proofs.Literals
import Mathlib.Data.Int.Bitwise
import Mathlib.Data.Nat.Bitwise

/-
This file says when permissions are within others. Permissions are octal literals, and those of a
file are within the expected ones if it has no bit that is not expected, which can be seen digit by
digit.
-/

namespace HostAudit

namespace Integer

variable {first second third value : Int}

/-- The bits of the first number are among those of the second, in words of 64 bits. -/
def Within (first second : Int) : Prop :=
  ∀ position < 64, first.testBit position = true → second.testBit position = true

instance (first second : Int) : Decidable (Within first second) :=
  inferInstanceAs (Decidable (∀ position < 64, _))

theorem Within.refl (value : Int) : Within value value := fun _ _ held => held

/-- The bits of a third number that has all of the second's are there as well. -/
theorem Within.trans (lower : Within first second) (upper : Within second third) :
    Within first third :=
  fun position inside held => upper position inside (lower position inside held)

/-- A word has the lowest bits of the number, in two's complement. -/
theorem getLsbD_ofInt (width : Nat) (value : Int) (position : Nat) :
    (BitVec.ofInt width value).getLsbD position =
      (decide (position < width) && value.testBit position) := by
  cases value with
  | ofNat value => exact BitVec.getLsbD_ofNat width value position
  | negSucc value =>
      rw [BitVec.ofInt_negSucc_eq_not_ofNat, BitVec.getLsbD_not, BitVec.getLsbD_ofNat,
        Int.testBit]
      cases decide (position < width) <;> rfl

/-- The masks are compared as words of 64 bits, which is bit by bit. -/
theorem bitsAllowed_iff_within (requested allowed : Int) :
    Comparison.bitsAllowed requested allowed = true ↔ Within requested allowed := by
  rw [Comparison.bitsAllowed, beq_iff_eq]
  constructor
  · intro same position inside held
    have bit : (BitVec.ofInt 64 allowed &&& BitVec.ofInt 64 requested).getLsbD position =
        (BitVec.ofInt 64 requested).getLsbD position := by
      rw [same]
    rw [BitVec.getLsbD_and, getLsbD_ofInt, getLsbD_ofInt, held] at bit
    simpa [inside] using bit
  · intro within
    apply BitVec.eq_of_getLsbD_eq
    intro position inside
    rw [BitVec.getLsbD_and, getLsbD_ofInt, getLsbD_ofInt]
    cases held : requested.testBit position with
    | false => simp
    | true => simp [inside, within position inside held]

/-- Numbers of 64 bits with the same bits are the same. -/
theorem Within.antisymm (firstFits : -2 ^ 63 ≤ first ∧ first < 2 ^ 63)
    (secondFits : -2 ^ 63 ≤ second ∧ second < 2 ^ 63) (lower : Within first second)
    (upper : Within second first) : first = second := by
  have words : BitVec.ofInt 64 first = BitVec.ofInt 64 second := by
    apply BitVec.eq_of_getLsbD_eq
    intro position inside
    have bits : first.testBit position = second.testBit position :=
      Bool.eq_iff_iff.mpr ⟨lower position inside, upper position inside⟩
    rw [getLsbD_ofInt, getLsbD_ofInt, bits]
  have whole {value : Int} (fits : -2 ^ 63 ≤ value ∧ value < 2 ^ 63) :
      (BitVec.ofInt 64 value).toInt = value := by
    rw [BitVec.toInt_ofInt]
    exact Int.bmod_eq_of_le (by omega) (by omega)
  rw [← whole firstFits, words, whole secondFits]

section Digits

variable {digits observed allowed : List Char}

/-- The value of the digit at a place from the right. In front of the digits there are zeros. -/
def place (digits : List Char) (position : Nat) : Nat := (places digits).getD position 0

/-- A digit in base eight is below eight. -/
theorem place_lt (octal : ∀ c ∈ digits, IsDigitOf 8 c) (position : Nat) :
    place digits position < 8 := by
  rw [place, List.getD_eq_getElem?_getD]
  cases held : (places digits)[position]? with
  | none => decide
  | some digit =>
      obtain ⟨c, among, rfl⟩ := List.mem_map.mp (List.mem_of_getElem? held)
      exact (octal c (List.mem_reverse.mp among)).2

/-- A digit of base eight is worth three bits. -/
theorem testBit_ofDigits {values : List Nat} (small : ∀ digit ∈ values, digit < 8)
    (position : Nat) {bit : Nat} (inside : bit < 3) :
    (Nat.ofDigits 8 values).testBit (3 * position + bit) =
      (values.getD position 0).testBit bit := by
  induction values generalizing position with
  | nil => simp
  | cons digit values ih =>
      obtain ⟨octal, others⟩ := List.forall_mem_cons.mp small
      have split : Nat.ofDigits 8 (digit :: values) = 2 ^ 3 * Nat.ofDigits 8 values + digit := by
        rw [Nat.ofDigits_cons, Nat.add_comm]
      rw [split, Nat.testBit_two_pow_mul_add _ octal]
      cases position with
      | zero => simp [inside]
      | succ position =>
          have behind : ¬ 3 * (position + 1) + bit < 3 := by omega
          have before : 3 * (position + 1) + bit - 3 = 3 * position + bit := by omega
          rw [if_neg behind, before, ih others, List.getD_cons_succ]

/-- A digit in base eight is worth three bits, which are those of the number at its place. -/
theorem testBit_magnitude (octal : ∀ c ∈ digits, IsDigitOf 8 c) (position : Nat) {bit : Nat}
    (inside : bit < 3) :
    (magnitude 8 digits).testBit (3 * position + bit) = (place digits position).testBit bit := by
  refine testBit_ofDigits (fun digit among => ?_) position inside
  obtain ⟨c, given, rfl⟩ := List.mem_map.mp among
  exact (octal c (List.mem_reverse.mp given)).2

/-- Bits are compared by comparing digits. -/
theorem forall_testBit_iff_places (observedOctal : ∀ c ∈ observed, IsDigitOf 8 c)
    (allowedOctal : ∀ c ∈ allowed, IsDigitOf 8 c) :
    (∀ position, (magnitude 8 observed).testBit position = true →
        (magnitude 8 allowed).testBit position = true) ↔
      ∀ position, place observed position &&& place allowed position = place observed position := by
  constructor
  · intro within position
    apply Nat.eq_of_testBit_eq
    intro bit
    rw [Nat.testBit_and]
    by_cases inside : bit < 3
    · rw [← testBit_magnitude observedOctal position inside,
        ← testBit_magnitude allowedOctal position inside]
      cases held : (magnitude 8 observed).testBit (3 * position + bit) with
      | false => rfl
      | true => rw [within _ held]; rfl
    · have high : place observed position < 2 ^ bit :=
        (place_lt observedOctal position).trans_le
          (Nat.pow_le_pow_right Nat.two_pos (Nat.le_of_not_lt inside))
      rw [Nat.testBit_lt_two_pow high, Bool.false_and]
  · intro allPlaces position held
    have inside : position % 3 < 3 := Nat.mod_lt position (by decide)
    rw [← Nat.div_add_mod position 3, testBit_magnitude observedOctal _ inside,
      ← allPlaces, Nat.testBit_and, Bool.and_eq_true] at held
    rw [← Nat.div_add_mod position 3, testBit_magnitude allowedOctal _ inside]
    exact held.2

/-- A number below 2 ^ 63 has no bits from there on. -/
theorem within_natCast_iff {first second : Nat} (small : first < 2 ^ 63) :
    Within first second ↔
      ∀ position, first.testBit position = true → second.testBit position = true := by
  constructor
  · intro within position held
    have below : position < 64 := by
      by_contra high
      have none : first.testBit position = false :=
        Nat.testBit_lt_two_pow (small.trans_le (Nat.pow_le_pow_right Nat.two_pos (by omega)))
      rw [none] at held
      cases held
    exact within position below held
  · exact fun all position _ held => all position held

/-- Numbers that are not negative are compared by their digits, whatever their signs. -/
theorem Spells.within_iff_places {text other : List Char}
    (observedSpells : Spells 8 text observed first) (allowedSpells : Spells 8 other allowed second)
    (firstNonneg : 0 ≤ first) (secondNonneg : 0 ≤ second) :
    Within first second ↔
      ∀ position, place observed position &&& place allowed position = place observed position := by
  have small := observedSpells.fits.2
  rw [observedSpells.signed.eq_magnitude firstNonneg] at small ⊢
  rw [allowedSpells.signed.eq_magnitude secondNonneg,
    ← forall_testBit_iff_places observedSpells.digitsOf allowedSpells.digitsOf]
  exact within_natCast_iff (by exact_mod_cast small)

end Digits

end Integer

namespace Comparison

open Integer (Spells Within place)

/-- The text is an octal literal of a number of 64 bits. -/
def Octal (text : String) (value : Int) : Prop := ∃ digits, Spells 8 text.toList digits value

section Reading

variable {text observed expected : String} {value first second : Int}

/-- What is read in base eight are the octal literals. -/
theorem int64?_octal_iff : Integer.int64? 8 text.toList = some value ↔ Octal text value :=
  Integer.int64?_eq_some_iff (by decide)

/-- What is not read in base eight is no octal literal. -/
theorem int64?_eq_none_iff_octal :
    Integer.int64? 8 text.toList = none ↔ ∀ value, ¬ Octal text value := by
  simp only [Option.eq_none_iff_forall_ne_some, ne_eq, int64?_octal_iff]

/-- An octal literal stands for one number. -/
theorem Octal.unique (one : Octal text first) (other : Octal text second) : first = second :=
  Option.some.inj ((int64?_octal_iff.mpr one).symm.trans (int64?_octal_iff.mpr other))

/-- An octal literal stands for a number of 64 bits. -/
theorem Octal.fits (octal : Octal text value) : -2 ^ 63 ≤ value ∧ value < 2 ^ 63 :=
  octal.elim fun _ spells => spells.fits

/-- What is observed is read first, and the failure names it. -/
theorem permissions_of_not_octal (bad : ∀ value, ¬ Octal observed value)
    (expected subject : String) :
    permissions observed expected subject = ⟨"Not numeric value - flag: " ++ observed, false⟩ := by
  rw [permissions, int64?_eq_none_iff_octal.mpr bad]

/-- What is expected is named if it is not octal, and what is observed is. -/
theorem permissions_of_octal_of_not_octal (octal : Octal observed value)
    (bad : ∀ value, ¬ Octal expected value) (subject : String) :
    permissions observed expected subject = ⟨"Not numeric value - flag: " ++ expected, false⟩ := by
  rw [permissions, int64?_octal_iff.mpr octal, int64?_eq_none_iff_octal.mpr bad]

/-- Permissions hold between octal literals exactly if no bit is set that is not allowed. -/
theorem holds_of_octal (observedOctal : Octal observed first)
    (expectedOctal : Octal expected second) (subject : String) :
    Operator.permissions.Holds subject observed expected ↔ Within first second := by
  rw [Operator.Holds, Operator.compare, permissions, int64?_octal_iff.mpr observedOctal,
    int64?_octal_iff.mpr expectedOctal]
  exact Integer.bitsAllowed_iff_within first second

/-- Permissions that are within others are read, and so are the others. -/
theorem permissions_hold_iff (subject observed expected : String) :
    Operator.permissions.Holds subject observed expected ↔
      ∃ first second, Octal observed first ∧ Octal expected second ∧ Within first second := by
  constructor
  · intro holds
    by_cases observedOctal : ∃ first, Octal observed first
    · obtain ⟨first, observedOctal⟩ := observedOctal
      by_cases expectedOctal : ∃ second, Octal expected second
      · obtain ⟨second, expectedOctal⟩ := expectedOctal
        exact ⟨first, second, observedOctal, expectedOctal,
          (holds_of_octal observedOctal expectedOctal subject).mp holds⟩
      · rw [Operator.Holds, Operator.compare, permissions_of_octal_of_not_octal observedOctal
          (not_exists.mp expectedOctal)] at holds
        cases holds
    · rw [Operator.Holds, Operator.compare, permissions_of_not_octal
        (not_exists.mp observedOctal)] at holds
      cases holds
  · rintro ⟨first, second, observedOctal, expectedOctal, within⟩
    exact (holds_of_octal observedOctal expectedOctal subject).mpr within

end Reading

/-- Permissions hold between octal literals exactly if the bits of the first are among those of the
second, which for numbers that are not negative is told by their digits from the right. So a literal
is within itself, what is within something is within all that it is within, and literals within one
another have the same value; taking bits from the observed value and giving bits to the expected one
does no harm. Of other texts the first that is no literal is named. -/
theorem permissions_hold_between_literals (subject : String) :
    (∀ observed expected first second, Octal observed first → Octal expected second →
      (Operator.permissions.Holds subject observed expected ↔ Within first second)) ∧
    (∀ observed expected digits others first second,
      Spells 8 observed.toList digits first → Spells 8 expected.toList others second →
      0 ≤ first → 0 ≤ second →
      (Operator.permissions.Holds subject observed expected ↔
        ∀ position, place digits position &&& place others position = place digits position)) ∧
    (∀ text value, Octal text value → Operator.permissions.Holds subject text text) ∧
    (∀ first second third, Operator.permissions.Holds subject first second →
      Operator.permissions.Holds subject second third →
      Operator.permissions.Holds subject first third) ∧
    (∀ text other first second, Octal text first → Octal other second →
      Operator.permissions.Holds subject text other →
      Operator.permissions.Holds subject other text → first = second) ∧
    (∀ observed expected fewer more first second less greater,
      Octal observed first → Octal expected second → Octal fewer less → Octal more greater →
      Within less first → Within second greater →
      Operator.permissions.Holds subject observed expected →
      Operator.permissions.Holds subject fewer more) ∧
    (∀ observed expected, (∀ value, ¬ Octal observed value) →
      Operator.permissions.compare observed expected subject =
        ⟨"Not numeric value - flag: " ++ observed, false⟩) ∧
    (∀ observed expected first, Octal observed first → (∀ value, ¬ Octal expected value) →
      Operator.permissions.compare observed expected subject =
        ⟨"Not numeric value - flag: " ++ expected, false⟩) := by
  refine ⟨?bits, ?digits, ?refl, ?trans, ?antisymm, ?monotone, ?badObserved, ?badExpected⟩
  case bits =>
    intro observed expected first second observedOctal expectedOctal
    exact holds_of_octal observedOctal expectedOctal subject
  case digits =>
    intro observed expected digits others first second observedSpells expectedSpells firstNonneg
      secondNonneg
    rw [holds_of_octal ⟨digits, observedSpells⟩ ⟨others, expectedSpells⟩]
    exact observedSpells.within_iff_places expectedSpells firstNonneg secondNonneg
  case refl =>
    intro text value octal
    exact (holds_of_octal octal octal subject).mpr (Within.refl value)
  case trans =>
    intro first second third lower upper
    obtain ⟨least, middle, leastOctal, middleOctal, lower⟩ := (permissions_hold_iff ..).mp lower
    obtain ⟨same, greatest, sameOctal, greatestOctal, upper⟩ := (permissions_hold_iff ..).mp upper
    obtain rfl := middleOctal.unique sameOctal
    exact (holds_of_octal leastOctal greatestOctal subject).mpr (lower.trans upper)
  case antisymm =>
    intro text other first second textOctal otherOctal lower upper
    exact Within.antisymm textOctal.fits otherOctal.fits
      ((holds_of_octal textOctal otherOctal subject).mp lower)
      ((holds_of_octal otherOctal textOctal subject).mp upper)
  case monotone =>
    intro observed expected fewer more first second less greater observedOctal expectedOctal
      fewerOctal moreOctal taken given holds
    have within := (holds_of_octal observedOctal expectedOctal subject).mp holds
    exact (holds_of_octal fewerOctal moreOctal subject).mpr ((taken.trans within).trans given)
  case badObserved =>
    intro observed expected bad
    exact permissions_of_not_octal bad expected subject
  case badExpected =>
    intro observed expected first octal bad
    exact permissions_of_octal_of_not_octal octal bad subject

/-- A literal of all bits is within itself only, and permissions that lack a digit in front are
within longer ones. -/
theorem permissions_hold_between_literals_short :
    Octal "44" 0o44 ∧ Octal "+0644" 0o644 ∧ Octal "-1" (-1) ∧ (∀ value, ¬ Octal "648" value) ∧
    Operator.permissions.Holds "mode" "44" "+0644" ∧
    ¬ Operator.permissions.Holds "mode" "-1" "+0644" ∧
    Operator.permissions.compare "44" "648" "mode" = ⟨"Not numeric value - flag: 648", false⟩ := by
  have short : Octal "44" 0o44 := int64?_octal_iff.mp (by decide)
  have long : Octal "+0644" 0o644 := int64?_octal_iff.mp (by decide)
  have full : Octal "-1" (-1) := int64?_octal_iff.mp (by decide)
  have bad : ∀ value, ¬ Octal "648" value := int64?_eq_none_iff_octal.mp (by decide)
  obtain ⟨bits, -, -, -, -, -, -, badExpected⟩ := permissions_hold_between_literals "mode"
  refine ⟨short, long, full, bad, ?_, ?_, badExpected _ _ _ short bad⟩
  · exact (bits _ _ _ _ short long).mpr (by decide)
  · exact mt (bits _ _ _ _ full long).mp (by decide)

end Comparison

end HostAudit
