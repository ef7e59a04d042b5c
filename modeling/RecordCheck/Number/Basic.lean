import RecordCheck.Number.Exact
import RecordCheck.Number.Binary64.Shortest

/-!
# Numbers

A number is an integer, a floating point number or a decimal.  Comparison is exact across the kinds.
NaN equals nothing; ordering a NaN against a decimal, and any comparison with a signaling NaN, is
invalid rather than false.
-/

set_option autoImplicit false

namespace RecordCheck

/-- A number of one of the three kinds. -/
inductive Number where
  | int (value : Int)
  | float (value : Number.Binary64)
  | decimal (value : Number.Decimal)
  deriving DecidableEq, Repr, Inhabited

namespace Number

/-- A number in the form in which numbers are compared. -/
def exact : Number → Exact
  | .int n => .ofInt n
  | .float x => .ofBinary64 x
  | .decimal d => .ofDecimal d

/-- Whether a number is neither infinite nor NaN. -/
def isFinite : Number → Bool
  | .int _ => true
  | .float x => x.isFinite
  | .decimal d => d.isFinite

/-- Whether a number is a decimal. -/
def isDecimal : Number → Bool
  | .decimal _ => true
  | _ => false

/-- Whether a number is a signaling NaN. -/
def isSignaling : Number → Bool
  | .decimal d => d.isSignaling
  | _ => false

/-- Order of two numbers by value; none if one is NaN. -/
def compare? : Number → Number → Option Ordering
  | .int n, .int m => some (compare n m)
  | a, b => a.exact.compare? b.exact

/-- Equality by value; none if the comparison is invalid. -/
def equal? (a b : Number) : Option Bool :=
  if a.isSignaling || b.isSignaling then none
  else some (a.compare? b == some .eq)

/-- The order of two numbers where both are comparable, `some none` where a NaN makes every order
false; none if the comparison is invalid. -/
def order? (a b : Number) : Option (Option Ordering) :=
  match a.compare? b with
  | some o => some (some o)
  | none => if a.isDecimal || b.isDecimal then none else some none

/-- Whether a number is zero. -/
def isZero (a : Number) : Bool := a.compare? (.int 0) == some .eq

/-- Whether a finite number has no fractional part. -/
def isIntegral : Number → Bool
  | .int _ => true
  | .float (.finite _ mantissa exponent) =>
    0 ≤ exponent || mantissa % Nat.pow 2 (-exponent).toNat == 0
  | .decimal (.finite _ coefficient exponent) => Decimal.isIntegral coefficient exponent
  | _ => false

/-- The text of a number; none for an integer with too many digits. -/
def text? : Number → Option (List Char)
  | .int n => if fitsText n then some (integerText n) else none
  | .float x => some x.text
  | .decimal d => some d.text

end Number

end RecordCheck
