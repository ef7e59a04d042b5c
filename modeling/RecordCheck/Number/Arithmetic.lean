import RecordCheck.Number.Basic

/-!
# Arithmetic

Doubling and the test for even numbers.  Decimal results are rounded to the precision of decimal
arithmetic, a half to the even neighbour, and kept within its range of exponents; where there is no
result, a condition says why.
-/

set_option autoImplicit false

namespace RecordCheck.Number

/-- The conditions under which decimal arithmetic has no result. -/
inductive DecimalCondition where
  | invalidOperation
  | divisionImpossible
  | overflow
  | conversionSyntax
  deriving DecidableEq, Repr

/-- The name of a condition. -/
def DecimalCondition.name : DecimalCondition → String
  | .invalidOperation => "InvalidOperation"
  | .divisionImpossible => "DivisionImpossible"
  | .overflow => "Overflow"
  | .conversionSyntax => "ConversionSyntax"

namespace Decimal

/-- The most digits of a result. -/
def precision : Nat := 28

/-- The greatest power of ten of a result's leading digit. -/
def greatestExponent : Int := 999999

/-- The least power of ten of a result's last digit. -/
def leastExponent : Int := -1000026

/-- A magnitude with its last digit at a power of ten no less than `exponent`, and at most as many
digits as the precision allows. -/
def rounded (coefficient : Nat) (exponent : Int) : Nat × Int :=
  let size : Int := (Text.digits coefficient).length
  let last := max (exponent + size - precision) leastExponent
  if last ≤ exponent then (coefficient, exponent)
  else
    let c := roundHalfEven coefficient (Nat.pow 10 (last - exponent).toNat)
    if c = Nat.pow 10 precision then (c / 10, last + 1) else (c, last)

/-- The result of an operation whose exact value is given. -/
def fitted (negative : Bool) (coefficient : Nat) (exponent : Int) :
    Except DecimalCondition Decimal :=
  if coefficient = 0 then
    pure (.finite negative 0 (min (max exponent leastExponent) greatestExponent))
  else
    let (c, e) := rounded coefficient exponent
    if greatestExponent < e + (Text.digits c).length - 1 then throw .overflow
    else pure (.finite negative c e)

/-- Twice a number. -/
def double : Decimal → Except DecimalCondition Decimal
  | .nan true _ _ => throw .invalidOperation
  | .nan false negative payload => pure (.nan false negative payload)
  | .infinite negative => pure (.infinite negative)
  | .finite negative coefficient exponent => fitted negative (2 * coefficient) exponent

/-- Whether a number is divisible by two; the quotient must not have more digits than the precision
allows. -/
def isEven : Decimal → Except DecimalCondition Bool
  | .nan true _ _ | .infinite _ => throw .invalidOperation
  | .nan false _ _ => pure false
  | .finite _ coefficient exponent =>
    let size : Int := (Text.digits coefficient).length
    if coefficient = 0 then pure true
    else if exponent + size > precision + 2 then throw .divisionImpossible
    else if exponent + size ≤ 0 then pure false
    else
      let (num, den) := scaled 10 coefficient exponent
      if Nat.pow 10 precision ≤ num / (2 * den) then throw .divisionImpossible
      else pure (num % (2 * den) == 0)

end Decimal

/-- Twice a number. -/
def double : Number → Except DecimalCondition Number
  | .int n => pure (.int (2 * n))
  | .float x => pure (.float x.double)
  | .decimal d => .decimal <$> d.double

/-- Whether a number is divisible by two. -/
def isEven : Number → Except DecimalCondition Bool
  | .int n => pure (n % 2 == 0)
  | .float (.finite negative mantissa exponent) =>
    pure (isIntegral (.float (.finite negative mantissa exponent)) &&
      Binary64.truncate negative mantissa exponent % 2 == 0)
  | .float _ => pure false
  | .decimal d => d.isEven

end RecordCheck.Number
