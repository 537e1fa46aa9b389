/-!
# Double-precision numbers

A number that is not an integer is held as the sixty-four bits of a double. Nothing here rests on
machine arithmetic: a double is a sign, a significand and a power of two, and every operation is one
rounding of an exact quotient of natural numbers, to the nearest double and to the even one of two
equally near. The rest of the library may therefore compute with doubles in proofs as it does in runs.
-/

namespace AgentDelegation.Decimal

def twoTo (k : Nat) : Nat := Nat.pow 2 k

def tenTo (k : Nat) : Nat := Nat.pow 10 k

/-- The bits of a double: one of sign, eleven of exponent, fifty-two of fraction. -/
structure Double where
  bits : UInt64
deriving DecidableEq, Repr, Inhabited

/-- The quotient rounded to the nearest natural number, a half going to the even neighbour. -/
def roundDiv (num den : Nat) : Nat :=
  let q := num / den
  let twice := 2 * (num % den)
  if twice < den then q else if den < twice then q + 1 else if q % 2 = 0 then q else q + 1

namespace Double

/-- Whether the sign bit is set, which it is for negative zero as well. -/
def negative (x : Double) : Bool := twoTo 63 ≤ x.bits.toNat

def exponentField (x : Double) : Nat := x.bits.toNat / twoTo 52 % 2048

def fraction (x : Double) : Nat := x.bits.toNat % twoTo 52

/-- The natural number `m` of the magnitude `m · 2 ^ x.exponent`. -/
def significand (x : Double) : Nat :=
  if x.exponentField = 0 then x.fraction else twoTo 52 + x.fraction

def exponent (x : Double) : Int := (max x.exponentField 1 : Nat) - 1075

/-- Every exponent field but the last belongs to a number. -/
def isFinite (x : Double) : Bool := x.exponentField != 2047

def isZero (x : Double) : Bool := x.significand == 0

def ratio (x : Double) : Nat × Nat :=
  (x.significand * twoTo x.exponent.toNat, twoTo (-x.exponent).toNat)

/-- The quotient of `num` by `den · 2 ^ e`, rounded. -/
def significandAt (num den : Nat) (e : Int) : Nat :=
  roundDiv (num * twoTo (-e).toNat) (den * twoTo e.toNat)

/-- The power of two at which the quotient of `num` by `den` has fifty-three bits, or the least one. -/
def exponentOf (num den : Nat) : Int :=
  let e : Int := (Nat.log2 num : Int) - Nat.log2 den - 53
  let fits := num * twoTo (-e).toNat < twoTo 53 * (den * twoTo e.toNat)
  max (if fits then e else e + 1) (-1074)

/-- The double nearest to the quotient of `num` by `den`. A carry out of the significand moves into the
exponent by plain addition, and a quotient beyond the largest double is infinite. -/
def ofRatio (negative : Bool) (num den : Nat) : Double :=
  let magnitude :=
    if num = 0 then 0
    else
      let e := exponentOf num den
      min ((e + 1074).toNat * twoTo 52 + significandAt num den e) (2047 * twoTo 52)
  ⟨UInt64.ofNat (if negative then twoTo 63 + magnitude else magnitude)⟩

def ofNat (n : Nat) : Double := ofRatio false n 1

/-- The double nearest to `digits · 10 ^ exponent`. Powers beyond the reach of the doubles are cut to the
first of them, which rounds to the same. -/
def ofDecimal (negative : Bool) (digits : Nat) (exponent : Int) : Double :=
  ofRatio negative (digits * tenTo (min exponent.toNat 400)) (tenTo (min (-exponent).toNat (Nat.log2 digits + 400)))

def neg (x : Double) : Double := ⟨x.bits ^^^ 0x8000000000000000⟩

def mul (x y : Double) : Double :=
  ofRatio (x.negative != y.negative) (x.ratio.1 * y.ratio.1) (x.ratio.2 * y.ratio.2)

def div (x y : Double) : Double :=
  ofRatio (x.negative != y.negative) (x.ratio.1 * y.ratio.2) (x.ratio.2 * y.ratio.1)

/-- The rounded sum of two magnitudes. -/
def addMagnitudes (x y : Double) : Double :=
  ofRatio false (x.ratio.1 * y.ratio.2 + y.ratio.1 * x.ratio.2) (x.ratio.2 * y.ratio.2)

def powerOfTen (k : Nat) : Double := ofNat (tenTo k)

/-- Division by `10 ^ k`, in steps of the largest power of ten that is a double. -/
def shrink (x : Double) (k : Nat) : Double :=
  if k ≤ 308 then x.div (powerOfTen k)
  else if x.isZero then x
  else shrink (x.div (powerOfTen 308)) (k - 308)
termination_by k

/-- The double for `digits · 10 ^ exponent`. The digits are rounded first, then multiplied or divided by
the rounded power of ten; the answer is `none` where that is beyond the largest double. -/
def ofScientific? (negative : Bool) (digits : Nat) (exponent : Int) : Option Double :=
  let start := ofNat digits
  let magnitude :=
    if exponent < 0 then some (start.shrink (-exponent).toNat)
    else if 308 < exponent then (if start.isZero then some start else none)
    else
      let product := start.mul (powerOfTen exponent.toNat)
      if product.isFinite then some product else none
  magnitude.map fun x => if negative then x.neg else x

end Double

end AgentDelegation.Decimal
