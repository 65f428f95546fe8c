/-!
# Binary floating point

A 64-bit floating-point number is kept as its bits, so that equality of values is equality of
representations. Arithmetic is exact: a number is seen as a sign, a significand and a power of two, and
a quotient of naturals is rounded to the nearest number, a tie going to the even significand.
-/

namespace ClusterClient

/-- A 64-bit binary floating-point number. -/
structure Binary64 where
  bits : UInt64
  deriving DecidableEq, Repr

namespace Binary64

/-- What a floating-point number stands for; `finite s m e` is `m * 2 ^ e`, negated if `s`. -/
inductive View where
  | nan
  | infinite (negative : Bool)
  | finite (negative : Bool) (significand : Nat) (exponent : Int)
  deriving DecidableEq, Repr

def isNegative (x : Binary64) : Bool := Nat.pow 2 63 ≤ x.bits.toNat

/-- The eleven bits of the exponent field. -/
def exponentField (x : Binary64) : Nat := x.bits.toNat / Nat.pow 2 52 % Nat.pow 2 11

/-- The fifty-two bits of the fraction field. -/
def fractionField (x : Binary64) : Nat := x.bits.toNat % Nat.pow 2 52

def view (x : Binary64) : View :=
  if x.exponentField = 2047 then
    if x.fractionField = 0 then .infinite x.isNegative else .nan
  else if x.exponentField = 0 then .finite x.isNegative x.fractionField (-1074)
  else .finite x.isNegative (Nat.pow 2 52 + x.fractionField) ((x.exponentField : Int) - 1075)

/-- The number with these fields. -/
def ofFields (negative : Bool) (magnitude : Nat) : Binary64 :=
  ⟨((if negative then Nat.pow 2 63 else 0) + magnitude).toUInt64⟩

def nan : Binary64 := ofFields false (2047 * Nat.pow 2 52 + Nat.pow 2 51)

def infinity (negative : Bool) : Binary64 := ofFields negative (2047 * Nat.pow 2 52)

def zero (negative : Bool) : Binary64 := ofFields negative 0

/-- The greatest `k` with `den * 2 ^ k ≤ num`, for positive `num` and `den`. -/
def floorLog2 (num den : Nat) : Int :=
  -- the guess is right or one too great
  let guess : Int := (Nat.log2 num : Int) - Nat.log2 den
  let reached :=
    if 0 ≤ guess then decide (den * Nat.pow 2 guess.toNat ≤ num)
    else decide (den ≤ num * Nat.pow 2 (-guess).toNat)
  if reached then guess else guess - 1

/-- The quotient rounded to the nearest natural, a tie going to the even one. -/
def roundDiv (num den : Nat) : Nat :=
  let q := num / den
  let twice := 2 * (num % den)
  if twice < den || (twice = den && q % 2 = 0) then q else q + 1

/-- The number nearest to `num / den`, a tie going to the even significand. -/
def ofRatio (negative : Bool) (num den : Nat) : Binary64 :=
  if num = 0 then zero negative
  else
    -- fifty-three bits of the quotient, fewer only where numbers lie evenly near zero
    let exponent : Int := max (floorLog2 num den - 52) (-1074)
    let significand :=
      if 0 ≤ exponent then roundDiv num (den * Nat.pow 2 exponent.toNat)
      else roundDiv (num * Nat.pow 2 (-exponent).toNat) den
    if exponent > 971 then infinity negative
    else
      -- the fields of a number are in order, so that a significand rounded up to the next power of two carries
      -- over
      let magnitude :=
        if significand < Nat.pow 2 52 then significand
        else (exponent + 1075).toNat * Nat.pow 2 52 + (significand - Nat.pow 2 52)
      ofFields negative (min magnitude (2047 * Nat.pow 2 52))

/-- The number nearest to a whole number. -/
def ofInt (n : Int) : Binary64 := ofRatio (n < 0) n.natAbs 1

/-- The magnitude as a quotient, for a finite number. -/
def ratio (significand : Nat) (exponent : Int) : Nat × Nat :=
  if 0 ≤ exponent then (significand * Nat.pow 2 exponent.toNat, 1)
  else (significand, Nat.pow 2 (-exponent).toNat)

def isFinite (x : Binary64) : Bool := x.exponentField ≠ 2047

/-- The whole number that this number equals, if it is one. -/
def toInt? (x : Binary64) : Option Int :=
  match x.view with
  | .finite negative significand exponent =>
    let (num, den) := ratio significand exponent
    if num % den = 0 then
      let n : Int := (num / den : Nat)
      some (if negative then -n else n)
    else none
  | _ => none

/-- Whether the number is at most zero; a number that is not one compares with nothing. -/
def isNonPositive (x : Binary64) : Bool :=
  match x.view with
  | .nan => false
  -- below every number, if it is negative
  | .infinite negative => negative
  | .finite negative significand _ => negative || significand = 0

/-- The nearest whole multiple of `1 / scale`, for a finite number. -/
def scaled? (x : Binary64) (scale : Nat) : Option Int :=
  match x.view with
  | .finite negative significand exponent =>
    let (num, den) := ratio significand exponent
    let n : Int := roundDiv (num * scale) den
    some (if negative then -n else n)
  | _ => none

/-- Equality as numbers: the two zeros are equal, and what is not a number equals nothing. -/
def equals (x y : Binary64) : Bool :=
  match x.view, y.view with
  | .nan, _ => false
  | _, .nan => false
  | .finite _ 0 _, .finite _ 0 _ => true
  | _, _ => x = y

end Binary64

end ClusterClient
