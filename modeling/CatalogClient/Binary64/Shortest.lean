import CatalogClient.Binary64.Basic

/-!
# Shortest decimal text

`FiniteDouble.shortest` gives the fewest decimal digits that read back as the double, and of those
the ones nearest to it; where two are equally near, a `Tie` decides. The reals that round to a
magnitude form an interval, its ends included when the significand is even. On the grid of decimals
with `n` digits only the two neighbours of the value can lie in the interval if any grid point
does, so the first grid with a hit wins.

How the digits are laid out is a matter of the format that uses them: `Layout` holds the choices.
-/

namespace CatalogClient

/-- `coefficient * 10 ^ exponent`. -/
structure Decimal where
  coefficient : Nat
  exponent : Int
deriving DecidableEq, Inhabited

/-- Which of two equally near decimals is taken. -/
inductive Tie
  /-- The one with the even coefficient. -/
  | even
  /-- The one of the greater magnitude. -/
  | away
deriving DecidableEq

/-- In a tie the point of the grid below is taken, not the one above. -/
def Tie.takesBelow (tie : Tie) (below : Nat) : Bool :=
  match tie with
  | .even => below % 2 = 0
  | .away => false

namespace Binary64

/-- The reals that round to `units`, in quarters of a unit. -/
structure Neighbourhood where
  low : Nat
  high : Nat
  closed : Bool

/-- The magnitudes half way to the neighbours; below a power of two the gap is half as wide. -/
def neighbourhood (units : Nat) : Neighbourhood :=
  let above := gap units
  let below := gap (units - 1)
  ⟨4 * units - 2 * below, 4 * units + 2 * above, units / above % 2 = 0⟩

/-- `num / den` lies in the neighbourhood. -/
def Neighbourhood.holds (r : Neighbourhood) (num den : Nat) : Bool :=
  if r.closed then r.low * den ≤ num && num ≤ r.high * den
  else r.low * den < num && num < r.high * den

/-- How many decimal digits `n` has. -/
def digitCount (n : Nat) : Nat := (toString n).length

/-- The exponent of the leading decimal digit of `units`, which are not zero. The least double is
above `10 ^ (-324)`, so the scaled value has a leading digit. -/
def leadingExponent (units : Nat) : Int :=
  (digitCount (units * Nat.pow 10 324 / unitsPerOne) : Int) - 325

/-- A number in quarters of a unit, as a quotient. -/
def gridPoint (index : Nat) (step : Int) : Nat × Nat :=
  if 0 ≤ step then (index * Nat.pow 10 step.toNat * (4 * unitsPerOne), 1)
  else (index * (4 * unitsPerOne), Nat.pow 10 (-step).toNat)

/-- The point of the grid of step `10 ^ step` that reads back as `units` and is nearest to them. -/
def hit? (tie : Tie) (units : Nat) (step : Int) : Option Decimal :=
  let (num, den) :=
    if 0 ≤ step then (units, unitsPerOne * Nat.pow 10 step.toNat)
    else (units * Nat.pow 10 (-step).toNat, unitsPerOne)
  let below := num / den
  let r := neighbourhood units
  let holds (index : Nat) : Bool := let (n, d) := gridPoint index step; r.holds n d
  let twice := 2 * (num % den)
  let nearer := if twice < den || (twice = den && tie.takesBelow below) then below else below + 1
  let farther := if nearer = below then below + 1 else below
  if holds nearer then some ⟨nearer, step⟩
  else if holds farther then some ⟨farther, step⟩
  else none

/-- Drops zeros at the end of the coefficient, at most `fuel` of them. -/
def dropZeros : Nat → Decimal → Decimal
  | 0, d => d
  | fuel + 1, d =>
    if d.coefficient % 10 = 0 && d.coefficient != 0 then
      dropZeros fuel ⟨d.coefficient / 10, d.exponent + 1⟩
    else d

/-- Seventeen digits are enough to tell any two doubles apart. -/
def shortestDecimal (tie : Tie) (units : Nat) : Decimal :=
  if units = 0 then ⟨0, 0⟩
  else
    let leading := leadingExponent units
    let found := (List.range 17).findSome? fun (n : Nat) => hit? tie units (leading - n)
    dropZeros 18 (found.getD ⟨0, 0⟩)

end Binary64

/-- The choices of a number format: between which positions of the decimal point numbers are
written out, whether positive exponents get a sign, and what is taken in a tie. -/
structure Layout where
  leastPoint : Int
  greatestPoint : Int
  signsExponent : Bool
  tie : Tie

namespace Decimal

/-- The decimal laid out. The point's position counts from before the first digit. -/
def layOut (d : Decimal) (layout : Layout) : String :=
  let digits := (toString d.coefficient).toList
  let point : Int := digits.length + d.exponent
  if d.coefficient = 0 then "0.0"
  else if point < layout.leastPoint || layout.greatestPoint < point then
    let exponent := point - 1
    let sign := if layout.signsExponent && 0 ≤ exponent then "+" else ""
    let mantissa := match digits with
      | first :: second :: more => String.ofList (first :: '.' :: second :: more)
      | few => String.ofList few
    mantissa ++ "e" ++ sign ++ toString exponent
  else if point ≤ 0 then
    "0." ++ String.ofList (List.replicate (-point).toNat '0' ++ digits)
  else if (digits.length : Int) ≤ point then
    String.ofList (digits ++ List.replicate (point.toNat - digits.length) '0') ++ ".0"
  else
    String.ofList (digits.take point.toNat ++ '.' :: digits.drop point.toNat)

end Decimal

namespace FiniteDouble

/-- The fewest digits that read back as `x`. -/
def shortest (tie : Tie) (x : FiniteDouble) : Decimal := Binary64.shortestDecimal tie x.units

/-- The sign, then the shortest digits laid out; zero keeps its sign. -/
def render (layout : Layout) (x : FiniteDouble) : String :=
  (if x.negative then "-" else "") ++ (x.shortest layout.tie).layOut layout

end FiniteDouble

end CatalogClient
