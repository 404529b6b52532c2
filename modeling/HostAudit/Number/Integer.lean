/-
This file reads and writes whole numbers in a base, bounds them to 64 bits, and sums them.
-/

-- A power of natural numbers has two instances once Mathlib is there: that of the core library and
-- that of monoids. Definitions are to mean the same in a module that imports none of Mathlib and in
-- one that imports all of it, so the instance of the core library comes first.
attribute [instance (2000)] instPowNat
attribute [default_instance 20000] instPowNat

namespace HostAudit.Integer

/-- The value of a digit below `base`; letters of either case follow the nine. -/
def digit? (base : Nat) (c : Char) : Option Nat :=
  let value? : Option Nat :=
    if '0' ≤ c ∧ c ≤ '9' then some (c.toNat - '0'.toNat)
    else if 'a' ≤ c ∧ c ≤ 'z' then some (c.toNat - 'a'.toNat + 10)
    else if 'A' ≤ c ∧ c ≤ 'Z' then some (c.toNat - 'A'.toNat + 10)
    else none
  value?.filter (· < base)

/-- The value of a digit string that continues the number `total`. -/
def extend? (base : Nat) (total : Nat) : List Char → Option Nat
  | [] => some total
  | c :: rest => (digit? base c).bind fun value => extend? base (base * total + value) rest

/-- The value of a digit string; an empty one has none. -/
def natural? (base : Nat) (digits : List Char) : Option Nat :=
  if digits.isEmpty then none else extend? base 0 digits

/-- The value of an optional sign and a digit string. -/
def signed? (base : Nat) : List Char → Option Int
  | '+' :: digits => (natural? base digits).map Int.ofNat
  | '-' :: digits => (natural? base digits).map fun value => -Int.ofNat value
  | digits => (natural? base digits).map Int.ofNat

/-- This bounds the values of a signed 64-bit word. -/
def fitsSigned (value : Int) : Bool := -2 ^ 63 ≤ value && value < 2 ^ 63

/-- A signed literal whose value fits 64 bits. -/
def int64? (base : Nat) (text : List Char) : Option Int :=
  (signed? base text).filter fitsSigned

/-- A character of the decimal alphabet. -/
def isDigit (c : Char) : Bool := '0' ≤ c && c ≤ '9'

/-- The decimal digits of a natural number. -/
def naturalChars (value : Nat) : List Char := Nat.toDigits 10 value

def naturalText (value : Nat) : String := String.ofList (naturalChars value)

/-- The decimal digits of an integer, after a minus sign when it is negative. -/
def chars : Int → List Char
  | .ofNat value => naturalChars value
  | .negSucc value => '-' :: naturalChars (value + 1)

def text (value : Int) : String := String.ofList (chars value)

/-- The digits of `value` in lower-case hexadecimal. -/
def hexChars (value : Nat) : List Char := Nat.toDigits 16 value

/-- This writes a number with at least `width` digits, zeros in front. -/
def padded (width : Nat) (value : Nat) : List Char :=
  let digits := naturalChars value
  List.replicate (width - digits.length) '0' ++ digits

/-- The sum of some numbers. -/
def total (numbers : List Nat) : Nat := numbers.foldr (· + ·) 0

@[simp] theorem total_nil : total [] = 0 := rfl

@[simp] theorem total_cons (number : Nat) (rest : List Nat) :
    total (number :: rest) = number + total rest := rfl

@[simp] theorem total_append (first second : List Nat) :
    total (first ++ second) = total first + total second := by
  induction first with
  | nil => simp
  | cons number rest ih => simp [ih, Nat.add_assoc]

end HostAudit.Integer
