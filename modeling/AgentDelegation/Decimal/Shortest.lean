import AgentDelegation.Decimal.Double

/-!
# The fewest digits that read back

A double is written with the fewest decimal digits that still single it out among all doubles, and of
those with the digits nearest to it. The search walks the decimal grids from coarse to fine: a grid of
spacing `10 ^ k` has a point among the reals that round to the double exactly when one of the double's
two neighbours on that grid is such a real, so two tests decide each grid.

How the digits are then laid out (where the point goes, when an exponent is written) belongs to each
format and is given by a layout below.
-/

namespace AgentDelegation.Decimal

/-- The decimal number `digits · 10 ^ power`. -/
structure Digits where
  digits : Nat
  power : Int
deriving DecidableEq, Repr, Inhabited

/-- Which of two equally near neighbours is taken. -/
inductive Tie where
  | even
  | up
deriving DecidableEq, Repr, Inhabited

def Tie.choose (tie : Tie) (n : Nat) : Nat :=
  match tie with
  | .even => if n % 2 = 0 then n else n + 1
  | .up => n + 1

namespace Double

/-- The reals that round to a positive double, in quarters of the unit of its significand: the lower end
is nearer where the significand is the least of its exponent. -/
def lowerQuarter (x : Double) : Nat :=
  4 * x.significand - (if x.fraction = 0 ∧ 1 < x.exponentField then 1 else 2)

def upperQuarter (x : Double) : Nat := 4 * x.significand + 2

/-- A quarter of the unit is `num / den` steps of the grid of spacing `10 ^ k`. -/
def quarterSteps (x : Double) (k : Int) : Nat × Nat :=
  let e := x.exponent - 2
  (twoTo e.toNat * tenTo (-k).toNat, twoTo (-e).toNat * tenTo k.toNat)

/-- Whether the grid point `d · 10 ^ k` rounds to the double. -/
def roundsFrom (x : Double) (k : Int) (d : Nat) : Bool :=
  let (num, den) := x.quarterSteps k
  if x.significand % 2 = 0 then x.lowerQuarter * num ≤ d * den && d * den ≤ x.upperQuarter * num
  else x.lowerQuarter * num < d * den && d * den < x.upperQuarter * num

/-- The neighbour on the grid of spacing `10 ^ k` that rounds to the double, the nearer one if both do. -/
def gridPoint? (tie : Tie) (x : Double) (k : Int) : Option Nat :=
  let (num, den) := x.quarterSteps k
  let exact := 4 * x.significand * num
  let below := exact / den
  match decide (0 < below) && x.roundsFrom k below, x.roundsFrom k (below + 1) with
  | true, true =>
    let twice := 2 * (exact % den)
    some (if twice < den then below else if den < twice then below + 1 else tie.choose below)
  | true, false => some below
  | false, true => some (below + 1)
  | false, false => none

/-- The first grid of the `n` from `10 ^ k` downwards that has a point for the double. -/
def searchGrids (tie : Tie) (x : Double) (k : Int) : Nat → Digits
  | 0 => ⟨x.significand * Nat.pow 5 (-x.exponent).toNat * twoTo x.exponent.toNat, min x.exponent 0⟩
  | n + 1 =>
    match x.gridPoint? tie k with
    | some d => ⟨d, k⟩
    | none => searchGrids tie x (k - 1) n

/-- The shortest digits of a finite double. The first grid tried is coarser than the double itself, and
seventeen digits always suffice, so the search ends on its own. -/
def shortest (tie : Tie) (x : Double) : Digits :=
  if x.isZero then ⟨0, 0⟩
  else
    let size : Int := Nat.log2 x.significand + x.exponent
    searchGrids tie x (size * 30103 / 100000 + 2) 40

end Double

/-- How digits are laid out: the number of places before the point is written positionally while it lies
in the given range, a whole number may carry a `.0`, and outside the range an exponent is written with its
sign. -/
structure Layout where
  leastPlaces : Option Int
  mostPlaces : Option Int
  wholeSuffix : String
  tie : Tie

namespace Layout

/-- JSON writes up to sixteen places before the point and up to five zeros after it. -/
def json : Layout := ⟨some (-4), some 16, ".0", .even⟩

/-- Plain notation has no exponent and no needless point. -/
def plain : Layout := ⟨none, none, "", .up⟩

def zeros (n : Nat) : String := String.ofList (List.replicate n '0')

def magnitude (layout : Layout) (d : Digits) : String :=
  let text := toString d.digits
  let places : Int := text.length + d.power
  let high := layout.mostPlaces.all (fun most => decide (places ≤ most))
  let low := layout.leastPlaces.all (fun least => decide (least ≤ places))
  if 0 ≤ d.power && high then text ++ zeros d.power.toNat ++ layout.wholeSuffix
  else if 0 < places && high then
    let digits := text.toList
    String.ofList (digits.take places.toNat) ++ "." ++ String.ofList (digits.drop places.toNat)
  else if places ≤ 0 && low then "0." ++ zeros (-places).toNat ++ text
  else
    let digits := text.toList
    let mantissa :=
      if digits.length ≤ 1 then text
      else String.ofList (digits.take 1) ++ "." ++ String.ofList (digits.drop 1)
    mantissa ++ (if 0 < places then "e+" else "e") ++ toString (places - 1)

end Layout

def Double.format (layout : Layout) (x : Double) : String :=
  (if x.negative then "-" else "") ++ layout.magnitude (x.shortest layout.tie)

end AgentDelegation.Decimal
