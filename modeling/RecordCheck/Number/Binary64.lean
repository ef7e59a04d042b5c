import RecordCheck.Number.Rounding
import RecordCheck.Text.Digit

/-!
# Floating point numbers

A binary64 number is not a number, an infinity, or a sign with a mantissa and a power of two.  The
finite numbers are compared and converted as the exact rationals they are; only `ofRatio` rounds, to
the nearest number of the format, a tie to the even mantissa, with an infinity beyond the range.
-/

set_option autoImplicit false

namespace RecordCheck.Number

/-- A number of the binary64 format.  A finite one is `mantissa * 2 ^ exponent`, negated if
`negative`. -/
inductive Binary64 where
  | nan
  | infinite (negative : Bool)
  | finite (negative : Bool) (mantissa : Nat) (exponent : Int)
  deriving DecidableEq, Repr, Inhabited

namespace Binary64

/-- The number of bits of a mantissa. -/
def precision : Nat := 53

/-- The least exponent of the format, that of zero and of the subnormal numbers. -/
def leastExponent : Int := -1074

/-- The greatest exponent of the format. -/
def greatestExponent : Int := 971

/-- Zero of either sign. -/
def zero (negative : Bool) : Binary64 := .finite negative 0 leastExponent

/-- Whether a number is neither infinite nor NaN. -/
def isFinite : Binary64 → Bool
  | .finite .. => true
  | _ => false

/-- The exponent with which the quotient of two positive numbers has a mantissa of full precision,
or the least exponent for a subnormal quotient. -/
def exponentOf (num den : Nat) : Int :=
  let guess : Int := (num.log2 : Int) - den.log2 - precision
  let (n, d) := scaled 2 num (-guess)
  let fitted := if n < Nat.pow 2 precision * (d * den) then guess else guess + 1
  max fitted leastExponent

/-- The number of the format nearest to `num / den`, with the given sign. -/
def ofRatio (negative : Bool) (num den : Nat) : Binary64 :=
  if num = 0 ∨ den = 0 then zero negative
  else
    let exponent := exponentOf num den
    let (n, d) := scaled 2 num (-exponent)
    let mantissa := roundHalfEven n (d * den)
    let (mantissa, exponent) :=
      if mantissa = Nat.pow 2 precision then (Nat.pow 2 (precision - 1), exponent + 1)
      else (mantissa, exponent)
    if greatestExponent < exponent then .infinite negative else .finite negative mantissa exponent

/-- The nearest number to `coefficient * 10 ^ exponent`.  Exponents far outside the range of the
format are decided without building the power. -/
def ofScientific (negative : Bool) (coefficient : Nat) (exponent : Int) : Binary64 :=
  let size : Int := (Text.digits coefficient).length
  if coefficient = 0 ∨ size + exponent < -400 then zero negative
  else if 400 < size + exponent then .infinite negative
  else
    let (num, den) := scaled 10 coefficient exponent
    ofRatio negative num den

/-- The nearest number to an integer. -/
def ofInt (n : Int) : Binary64 := ofRatio (n < 0) n.natAbs 1

/-- A finite number as numerator and denominator, without its sign. -/
def magnitude (mantissa : Nat) (exponent : Int) : Nat × Nat := scaled 2 mantissa exponent

/-- The integer part of a finite number, toward zero. -/
def truncate (negative : Bool) (mantissa : Nat) (exponent : Int) : Int :=
  let (num, den) := magnitude mantissa exponent
  if negative then -((num / den : Nat) : Int) else ((num / den : Nat) : Int)

/-- Twice a number. -/
def double : Binary64 → Binary64
  | .nan => .nan
  | .infinite negative => .infinite negative
  | .finite negative mantissa exponent =>
    let (num, den) := magnitude mantissa exponent
    ofRatio negative (2 * num) den

end Binary64

end RecordCheck.Number
