import HostAudit.Number.Integer

/-
This file holds binary64 values as a sign and a magnitude, with exact rounding from ratios.
-/

namespace HostAudit

/-- A binary64 value: its sign bit, and the 63 bits below it read as a number. -/
structure Double where
  negative : Bool
  magnitude : Nat
deriving DecidableEq, Repr

namespace Double

/-- The magnitude of infinity; larger magnitudes are not numbers. -/
def infinityMagnitude : Nat := 0x7FF * 2 ^ 52

def infinity (negative : Bool) : Double := ⟨negative, infinityMagnitude⟩

def nan (negative : Bool) : Double := ⟨negative, infinityMagnitude + 2 ^ 51⟩

def zero (negative : Bool) : Double := ⟨negative, 0⟩

def isFinite (x : Double) : Bool := x.magnitude < infinityMagnitude

def isNaN (x : Double) : Bool := infinityMagnitude < x.magnitude

def isZero (x : Double) : Bool := x.magnitude == 0

/-- This orders all values: negative ones first, and by magnitude within a sign. -/
def orderKey (x : Double) : Int :=
  if x.negative then -1 - Int.ofNat x.magnitude else Int.ofNat x.magnitude

/-- A finite value is `mantissa * 2 ^ shift / 2 ^ 1074`. -/
def mantissa (x : Double) : Nat :=
  if x.magnitude < 2 ^ 52 then x.magnitude else 2 ^ 52 + x.magnitude % 2 ^ 52

def shift (x : Double) : Nat := x.magnitude / 2 ^ 52 - 1

/-- The magnitude of a finite value, as a multiple of the smallest positive one. -/
def units (x : Double) : Nat := x.mantissa * 2 ^ x.shift

/-- The whole number nearest to a ratio; of two equally near, the even one. -/
def divRound (num den : Nat) : Nat :=
  let quotient := num / den
  let twice := 2 * (num % den)
  if twice < den || (twice == den && quotient % 2 == 0) then quotient else quotient + 1

/-- The magnitude nearest to a ratio, with no bound above. -/
def nearestMagnitude (num den : Nat) : Nat :=
  let scaled := num * 2 ^ 1074
  let shift := Nat.log2 (scaled / den) - 52
  shift * 2 ^ 52 + divRound scaled (den * 2 ^ shift)

/-- The value nearest to a ratio; what is too large becomes infinity. -/
def ofRatio (negative : Bool) (num den : Nat) : Double :=
  ⟨negative, min (nearestMagnitude num den) infinityMagnitude⟩

def ofNat (value : Nat) : Double := ofRatio false value 1

def ofInt (value : Int) : Double := ofRatio (value < 0) value.natAbs 1

/-- The product of two finite values. -/
def mul (x y : Double) : Double :=
  ofRatio (x.negative != y.negative) (x.units * y.units) (2 ^ 2148)

/-- The quotient of two finite values, the second one not zero. -/
def div (x y : Double) : Double :=
  ofRatio (x.negative != y.negative) x.units y.units

/-- The sum of two finite values of no sign. -/
def addMagnitudes (x y : Double) : Double := ofRatio false (x.units + y.units) (2 ^ 1074)

end Double

end HostAudit
