import ClusterClient.Number.Binary64
import ClusterClient.Number.Numeral

/-!
# Reading decimals

The grammar of a decimal is a sign, digits with an optional point among or beside them, and an
optional exponent; the words for infinity and for what is not a number are read in any case. The
number nearest to the decimal is the result, and one that is too great is infinite.
-/

namespace ClusterClient.Binary64

/-- A decimal taken apart: its digits without the point, and the power of ten they are scaled by. -/
structure Scientific where
  digits : List Nat
  exponent : Int
  deriving DecidableEq, Repr

/-- The longest run of digits in front, and what follows it. -/
def spanDigits (t : Text) : List Nat × Text :=
  let (run, rest) := t.span CodePoint.isAsciiDigit
  (run.map fun c => c.val - 0x30, rest)

/-- The exponent part, which may be absent. -/
def exponentPart? : Text → Option Int
  | [] => some 0
  | mark :: rest =>
    if mark.toAsciiLower = 'e' then
      let (negative, body) := Numeral.splitSign rest
      (Numeral.digitRun? body).map fun digits =>
        let n : Int := Numeral.ofDigits digits
        if negative then -n else n
    else none

/-- Digits, point and exponent of an unsigned decimal. -/
def scientific? (t : Text) : Option Scientific :=
  let (whole, rest) := spanDigits t
  let (fraction, rest) :=
    match rest with
    | c :: rest' => if c = '.' then spanDigits rest' else ([], rest)
    | [] => ([], [])
  if whole.isEmpty && fraction.isEmpty then none
  else
    (exponentPart? rest).map fun e =>
      { digits := whole ++ fraction, exponent := e - fraction.length }

/-- The number nearest to a decimal. Beyond the range of exponents nothing has to be computed. -/
def ofScientific (negative : Bool) (s : Scientific) : Binary64 :=
  let n := Numeral.ofDigits s.digits
  if n = 0 then zero negative
  else
    let size := ((s.digits.dropWhile (· = 0)).length : Int) + s.exponent
    if size > 400 then infinity negative
    else if size < -400 then zero negative
    else if 0 ≤ s.exponent then ofRatio negative (n * Nat.pow 10 s.exponent.toNat) 1
    else ofRatio negative n (Nat.pow 10 (-s.exponent).toNat)

/-- Whether every underscore stands between two digits. -/
def underscoresSeparateDigits (t : Text) : Bool :=
  let parts := t.splitOn '_'
  let endsInDigit (part : Text) : Bool := (part.getLast?.map CodePoint.isAsciiDigit).getD false
  let startsWithDigit (part : Text) : Bool := (part.head?.map CodePoint.isAsciiDigit).getD false
  parts.dropLast.all endsInDigit && parts.tail.all startsWithDigit

/-- The number that an ASCII numeral without blanks writes. -/
def ofNumeral? (t : Text) : Option Binary64 :=
  if underscoresSeparateDigits t then
    let (negative, body) := Numeral.splitSign (t.filter (· ≠ CodePoint.ofChar '_'))
    let word := body.toAsciiLower
    if word = "inf" || word = "infinity" then some (infinity negative)
    else if word = "nan" then some nan
    else (scientific? body).map (ofScientific negative)
  else none

/-- The number that a numeral writes. -/
def read? (t : Text) : Option Binary64 := ofNumeral? (Numeral.trim t)

end ClusterClient.Binary64
