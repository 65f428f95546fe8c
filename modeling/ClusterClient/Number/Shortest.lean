import ClusterClient.Number.Binary64
import ClusterClient.Number.Numeral

/-!
# Shortest decimal text

A finite number is written with the fewest digits that read back as the same number; among the
decimals with that many digits the nearest one is taken. Each grid of decimals is searched at the two
neighbours of the number, in exact arithmetic.
-/

namespace ClusterClient

/-- How the digits of a number are laid out. -/
structure FloatLayout where
  /-- Exponents from here on up are written positionally. -/
  positionalFrom : Int
  /-- Exponents from here on up are written with an exponent mark. -/
  positionalBelow : Int
  nan : Text
  infinity : Text

namespace FloatLayout

/-- Numbers in messages: positional from 0.0001 to below 10 ^ 16. -/
def plain : FloatLayout := ⟨-4, 16, "nan", "inf"⟩

/-- Numbers in documents: as in messages, with the long words for what is not finite. -/
def document : FloatLayout := ⟨-4, 16, "NaN", "Infinity"⟩

end FloatLayout

namespace Binary64

/-- Digits `d₁ d₂ … dₙ` and an exponent `k` stand for `d₁.d₂…dₙ * 10 ^ k`. -/
structure Decimal where
  digits : Nat
  count : Nat
  exponent : Int
  deriving DecidableEq, Repr

/-- The value of a decimal as a quotient. -/
def Decimal.ratio (d : Decimal) : Nat × Nat :=
  let shift := d.exponent - ((d.count : Int) - 1)
  if 0 ≤ shift then (d.digits * Nat.pow 10 shift.toNat, 1) else (d.digits, Nat.pow 10 (-shift).toNat)

/-- Whether `10 ^ k ≤ num / den`. -/
def reachesPower (num den : Nat) (k : Int) : Bool :=
  if 0 ≤ k then den * Nat.pow 10 k.toNat ≤ num else den ≤ num * Nat.pow 10 (-k).toNat

/-- The greatest `k` with `10 ^ k ≤ num / den`, for a quotient of two positive numbers. -/
def floorLog10 (num den : Nat) : Int :=
  let guess := Int.fdiv (floorLog2 num den * 30103) 100000
  if reachesPower num den (guess + 1) then guess + 1
  else if reachesPower num den guess then guess
  else guess - 1

/-- The two neighbours of `num / den` among the decimals with `count` digits, the nearer first. -/
def neighbours (num den : Nat) (k : Int) (count : Nat) : List Decimal :=
  let shift := k - ((count : Int) - 1)
  let (n, d) :=
    if 0 ≤ shift then (num, den * Nat.pow 10 shift.toNat)
    else (num * Nat.pow 10 (-shift).toNat, den)
  let low := n / d
  let rest := n % d
  let below : Decimal := ⟨low, count, k⟩
  let above : Decimal :=
    if low + 1 = Nat.pow 10 count then ⟨Nat.pow 10 (count - 1), count, k + 1⟩ else ⟨low + 1, count, k⟩
  if 2 * rest < d || (2 * rest = d && low % 2 = 0) then [below, above] else [above, below]

/-- The shortest decimal that reads back as `x`, whose magnitude is the given quotient. -/
def shortest (x : Binary64) (num den : Nat) : Decimal :=
  let k := floorLog10 num den
  let readsBack (d : Decimal) : Bool :=
    let (n, m) := d.ratio
    ofRatio x.isNegative n m = x
  ((List.range 17).findSome? fun i => (neighbours num den k (i + 1)).find? readsBack).getD
    ⟨num, 1, 0⟩

/-- Digits without the zeros at their end. -/
def trimZeros (digits : Text) : Text := digits.stripRightBy (· = CodePoint.ofChar '0')

/-- Digits and exponent in the given layout. -/
def layOut (layout : FloatLayout) (digits : Text) (k : Int) : Text :=
  if layout.positionalFrom ≤ k && k < layout.positionalBelow then
    if k < 0 then "0." ++ List.replicate (-k - 1).toNat (CodePoint.ofChar '0') ++ digits
    else
      let whole := k.toNat + 1
      let front := digits.take whole ++ List.replicate (whole - digits.length) (CodePoint.ofChar '0')
      let back := digits.drop whole
      front ++ "." ++ (if back.isEmpty then ("0" : Text) else back)
  else
    let front := digits.take 1
    let back := digits.drop 1
    let mark : Text := if k < 0 then "e-" else "e+"
    let size := Text.ofNat k.natAbs
    front ++ (if back.isEmpty then [] else CodePoint.ofChar '.' :: back) ++ mark ++
      (if size.length < 2 then CodePoint.ofChar '0' :: size else size)

/-- The text of a number in a layout. -/
def toText (layout : FloatLayout) (x : Binary64) : Text :=
  let signed (negative : Bool) (t : Text) : Text := if negative then CodePoint.ofChar '-' :: t else t
  match x.view with
  | .nan => layout.nan
  | .infinite negative => signed negative layout.infinity
  | .finite negative 0 _ => signed negative "0.0"
  | .finite negative significand exponent =>
    let (num, den) := ratio significand exponent
    let d := x.shortest num den
    signed negative (layOut layout (trimZeros (Text.ofNat d.digits)) d.exponent)

end Binary64

end ClusterClient
