import CatalogClient.Binary64.Basic

/-!
# Arithmetic on doubles

Each operation forms the exact result as a quotient of natural numbers and rounds it once. Not a
number is passed on, except by `max`, which prefers the operand that is a number.
-/

namespace CatalogClient

namespace Binary64

def zero : Binary64 := .finite .zero
def one : Binary64 := ofNat 1

def isNaN : Binary64 → Bool
  | .nan => true
  | _ => false

/-- The order of the numbers; false when either side is not a number. -/
def le : Binary64 → Binary64 → Bool
  | .nan, _ => false
  | _, .nan => false
  | .infinity true, _ => true
  | _, .infinity false => true
  | .infinity false, _ => false
  | _, .infinity true => false
  | .finite x, .finite y => decide (x.signedUnits ≤ y.signedUnits)

/-- Strictly below; false when either side is not a number. -/
def lt (x y : Binary64) : Bool := le x y && !le y x

def mul : Binary64 → Binary64 → Binary64
  | .nan, _ => .nan
  | _, .nan => .nan
  | .infinity s, .infinity t => .infinity (s != t)
  | .infinity s, .finite y => if y.units = 0 then .nan else .infinity (s != y.negative)
  | .finite x, .infinity t => if x.units = 0 then .nan else .infinity (x.negative != t)
  | .finite x, .finite y => round (x.negative != y.negative) (x.units * y.units) unitsPerOne

def div : Binary64 → Binary64 → Binary64
  | .nan, _ => .nan
  | _, .nan => .nan
  | .infinity _, .infinity _ => .nan
  | .infinity s, .finite y => .infinity (s != y.negative)
  | .finite x, .infinity t => round (x.negative != t) 0 1
  | .finite x, .finite y =>
    if y.units = 0 then
      if x.units = 0 then .nan else .infinity (x.negative != y.negative)
    else round (x.negative != y.negative) (x.units * unitsPerOne) y.units

/-- A sum of zero is negative only if both sides are. -/
def add : Binary64 → Binary64 → Binary64
  | .nan, _ => .nan
  | _, .nan => .nan
  | .infinity s, .infinity t => if s = t then .infinity s else .nan
  | .infinity s, .finite _ => .infinity s
  | .finite _, .infinity t => .infinity t
  | .finite x, .finite y =>
    let sum := x.signedUnits + y.signedUnits
    round (if sum = 0 then x.negative && y.negative else decide (sum < 0)) sum.natAbs 1

def neg : Binary64 → Binary64
  | .nan => .nan
  | .infinity s => .infinity (!s)
  | .finite x => .finite { x with negative := !x.negative }

instance : Mul Binary64 := ⟨mul⟩
instance : Div Binary64 := ⟨div⟩
instance : Add Binary64 := ⟨add⟩
instance : Neg Binary64 := ⟨neg⟩

/-- The larger operand; the other one when one of them is not a number. -/
def max (x y : Binary64) : Binary64 :=
  if x.isNaN then y else if y.isNaN then x else if le x y then y else x

/-- `x` moved into the range from `low` to `high`; not a number stays what it is. -/
def clamp (x low high : Binary64) : Binary64 :=
  if lt x low then low else if lt high x then high else x

/-- The least whole number that is not below `x`. -/
def ceil : Binary64 → Binary64
  | .finite x =>
    if x.negative then round true (x.units / unitsPerOne * unitsPerOne) 1
    else round false ((x.units + (unitsPerOne - 1)) / unitsPerOne * unitsPerOne) 1
  | x => x

/-- The greatest count that fits in 64 bits. -/
def greatestCount : Nat := 18446744073709551615

/-- The whole part as a count that fits in 64 bits: nothing below zero, the greatest count past
the end, nothing for what is not a number. -/
def toCount : Binary64 → Nat
  | .nan => 0
  | .infinity negative => if negative then 0 else greatestCount
  | .finite x => if x.negative then 0 else min (x.units / unitsPerOne) greatestCount

/-- The power of ten nearest to `10 ^ n`. -/
def powerOfTen (n : Nat) : Binary64 := ofNat (Nat.pow 10 n)

theorem toCount_le (x : Binary64) : x.toCount ≤ greatestCount := by
  unfold toCount; split
  · exact Nat.zero_le _
  · split
    · exact Nat.zero_le _
    · exact Nat.le_refl _
  · split
    · exact Nat.zero_le _
    · exact Nat.min_le_right _ _

end Binary64

end CatalogClient
