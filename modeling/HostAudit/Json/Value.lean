import HostAudit.Number.Decimal

/-
This file holds JSON values and the order that objects are kept in.
-/

namespace HostAudit.Json

/-- A number is whole within 64 bits, signed or not, or else a binary64 value. -/
inductive Number where
  | integer (value : Int)
  | double (value : Double)
deriving DecidableEq, Repr

/-- The members of an object stand in the order in which they are written. -/
inductive Value where
  | null
  | bool (value : Bool)
  | number (value : Number)
  | text (value : String)
  | array (items : List Value)
  | object (members : List (String × Value))
deriving Repr

/-- This bounds the whole numbers that stay whole. -/
def Number.fits (value : Int) : Bool := -2 ^ 63 ≤ value && value < 2 ^ 64

namespace Value

def nat (value : Nat) : Value := .number (.integer value)

/-- This puts a member into its place among members sorted by name, unless the name is taken. -/
def putNew (name : String) (value : Value) : List (String × Value) → List (String × Value)
  | [] => [(name, value)]
  | (other, held) :: rest =>
      if name < other then (name, value) :: (other, held) :: rest
      else if name = other then (other, held) :: rest
      else (other, held) :: putNew name value rest

mutual

/-- This sorts the members of every object by name and keeps the last of equal names. -/
def sorted : Value → Value
  | .array items => .array (sortedItems items)
  | .object members => .object (sortedMembers members)
  | other => other

def sortedItems : List Value → List Value
  | [] => []
  | item :: rest => sorted item :: sortedItems rest

def sortedMembers : List (String × Value) → List (String × Value)
  | [] => []
  | (name, value) :: rest => putNew name (sorted value) (sortedMembers rest)

end

/-- The member of an object under a name. -/
def member? (name : String) : Value → Option Value
  | .object members => members.lookup name
  | _ => none

/-- The items of an array, or the members' values of an object. -/
def children : Value → List Value
  | .array items => items
  | .object members => members.map Prod.snd
  | _ => []

end Value

end HostAudit.Json
