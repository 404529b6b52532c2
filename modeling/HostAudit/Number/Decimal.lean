import HostAudit.Number.Double

/-
This file holds decimal numbers: reading their text, rounding them to binary64, and finding the
shortest one that stands for a binary64 value.
-/

namespace HostAudit

/-- The number `coefficient * 10 ^ exponent`. -/
structure Decimal where
  coefficient : Nat
  exponent : Int
deriving DecidableEq, Repr

namespace Decimal

/-- The digits of the coefficient. -/
def digits (number : Decimal) : List Char := Integer.naturalChars number.coefficient

/-- The power of ten just above the number. -/
def point (number : Decimal) : Int := number.digits.length + number.exponent

/-- The nearest binary64 value. The bounds on `point` lie outside the finite range. -/
def toDouble (negative : Bool) (number : Decimal) : Double :=
  if number.coefficient = 0 ∨ number.point < -400 then Double.zero negative
  else if 400 < number.point then Double.infinity negative
  else if 0 ≤ number.exponent then
    Double.ofRatio negative (number.coefficient * 10 ^ number.exponent.toNat) 1
  else Double.ofRatio negative number.coefficient (10 ^ (-number.exponent).toNat)

/-- This reads an optional sign. -/
def takeSign : List Char → Bool × List Char
  | '-' :: rest => (true, rest)
  | '+' :: rest => (false, rest)
  | rest => (false, rest)

/-- This reads an exponent part, which is a letter, an optional sign and digits. -/
def exponent? : List Char → Option Int
  | [] => some 0
  | c :: rest =>
      if c = 'e' ∨ c = 'E' then
        let (negative, digits) := takeSign rest
        (Integer.natural? 10 digits).map fun value => if negative then -Int.ofNat value else value
      else none

/-- This reads digits, of which some may follow a point, and an exponent. -/
def read? (text : List Char) : Option Decimal :=
  let whole := text.takeWhile Integer.isDigit
  let rest := text.dropWhile Integer.isDigit
  let (fraction, rest) := match rest with
    | '.' :: more => (more.takeWhile Integer.isDigit, more.dropWhile Integer.isDigit)
    | _ => ([], rest)
  match Integer.natural? 10 (whole ++ fraction), exponent? rest with
  | some coefficient, some exponent => some ⟨coefficient, exponent - fraction.length⟩
  | _, _ => none

/-- This spells a letter in lower case. -/
def lower (c : Char) : Char := c.toLower

/-- This reads a signed decimal number, `inf`, `infinity` or `nan` in any case. -/
def readDouble? (text : List Char) : Option Double :=
  let (negative, rest) := takeSign text
  let word := String.ofList (rest.map lower)
  if word = "nan" then some (Double.nan negative)
  else if word = "inf" ∨ word = "infinity" then some (Double.infinity negative)
  else (read? rest).map (toDouble negative)

/-- This removes the zeros at the end of a coefficient, at most `fuel` of them. -/
def trimZeros : Nat → Decimal → Decimal
  | 0, number => number
  | fuel + 1, number =>
      if number.coefficient ≠ 0 ∧ number.coefficient % 10 = 0 then
        trimZeros fuel ⟨number.coefficient / 10, number.exponent + 1⟩
      else number

/-- A finite value, the half gaps around it in quarters of a unit, and whether the ends of the
interval that they bound still round to it. -/
structure Neighbourhood where
  units : Nat
  below : Nat
  above : Nat
  closed : Bool

def neighbourhood (x : Double) : Neighbourhood where
  units := x.units
  below := if x.magnitude % 2 ^ 52 = 0 ∧ 0 < x.shift then 2 ^ x.shift else 2 * 2 ^ x.shift
  above := 2 * 2 ^ x.shift
  closed := x.mantissa % 2 = 0

/-- The decimal lies in the interval of numbers that round to the value. -/
def Neighbourhood.holds (area : Neighbourhood) (number : Decimal) : Bool :=
  let scale := 10 ^ (-number.exponent).toNat
  let value := number.coefficient * 10 ^ number.exponent.toNat * 2 ^ 1076
  let low := (4 * area.units - area.below) * scale
  let high := (4 * area.units + area.above) * scale
  if area.closed then low ≤ value && value ≤ high else low < value && value < high

/-- The distance between the decimal and the value, in a scale that only the exponent sets. -/
def Neighbourhood.distance (area : Neighbourhood) (number : Decimal) : Nat :=
  let value := number.coefficient * 10 ^ number.exponent.toNat * 2 ^ 1074
  let centre := area.units * 10 ^ (-number.exponent).toNat
  (value - centre) + (centre - value)

/-- Which of two decimals stands for a value that lies in the middle between them. -/
inductive Tie where
  | even
  | up
deriving DecidableEq, Repr

def Tie.takesLower (tie : Tie) (coefficient : Nat) : Bool :=
  match tie with
  | .even => coefficient % 2 = 0
  | .up => false

/-- The lower decimal is the nearer one, or stands for the middle. -/
def Neighbourhood.prefersLower (area : Neighbourhood) (tie : Tie) (lower upper : Decimal) : Bool :=
  area.distance lower < area.distance upper ||
    (area.distance lower = area.distance upper && tie.takesLower lower.coefficient)

/-- The nearer of the two decimals of a grid around the value that rounds to it. -/
def Neighbourhood.onGrid? (area : Neighbourhood) (tie : Tie) (exponent : Int) : Option Decimal :=
  let whole := area.units * 10 ^ (-exponent).toNat / (2 ^ 1074 * 10 ^ exponent.toNat)
  let lower : Decimal := ⟨whole, exponent⟩
  let upper : Decimal := ⟨whole + 1, exponent⟩
  if area.holds lower && (area.prefersLower tie lower upper || !area.holds upper) then
    some lower
  else if area.holds upper then some upper
  else none

/-- The first grid with a hit, from `exponent` down. -/
def Neighbourhood.search (area : Neighbourhood) (tie : Tie) : Nat → Int → Decimal
  | 0, exponent => ⟨0, exponent⟩
  | fuel + 1, exponent =>
      (area.onGrid? tie exponent).getD (area.search tie fuel (exponent - 1))

/-- The power of ten just above the value of `units`. -/
def pointOf (units : Nat) : Int :=
  (Integer.naturalChars (units * 10 ^ 400 / 2 ^ 1074)).length - 400

/-- The decimal of fewest digits that rounds to the magnitude of a finite value, and of those the
nearest. Seventeen digits always suffice. -/
def shortest (tie : Tie) (x : Double) : Decimal :=
  if x.isZero then ⟨0, 0⟩
  else trimZeros 20 ((neighbourhood x).search tie 17 (pointOf x.units - 1))

/-- This writes a number without an exponent: whole digits, and decimals after a point. -/
def positional (number : Decimal) : List Char :=
  let digits := number.digits
  match number.exponent with
  | .ofNat zeros => digits ++ List.replicate zeros '0'
  | .negSucc below =>
      let places := below + 1
      if places < digits.length then
        digits.take (digits.length - places) ++ '.' :: digits.drop (digits.length - places)
      else '0' :: '.' :: List.replicate (places - digits.length) '0' ++ digits

/-- This writes a number with one digit before the point and a signed power of ten. -/
def scientific (number : Decimal) : List Char :=
  let power := number.point - 1
  let sign := if power < 0 then '-' else '+'
  let mantissa := match number.digits with
    | first :: next :: others => first :: '.' :: next :: others
    | few => few
  mantissa ++ 'e' :: sign :: Integer.naturalChars power.natAbs

end Decimal

/-- The plain text of a value never has an exponent, nor decimals that are all zero. Of two decimals
that are equally near it takes the greater one. -/
def Double.plainText (x : Double) : String :=
  if x.isNaN then "NaN"
  else
    let sign := if x.negative then "-" else ""
    if x.isFinite then sign ++ String.ofList (Decimal.shortest .up x).positional else sign ++ "inf"

/-- The value with `places` decimals, a half going to the even neighbour. -/
def Double.fixedText (places : Nat) (x : Double) : String :=
  let scaled := Double.divRound (x.units * 10 ^ places) (2 ^ 1074)
  let digits := Integer.padded (places + 1) scaled
  let whole := digits.take (digits.length - places)
  let sign := if x.negative then "-" else ""
  sign ++ String.ofList (whole ++ '.' :: digits.drop (digits.length - places))

end HostAudit
