import RecordCheck.Number.Decimal

/-!
# Exact comparison

Numbers of different kinds are compared by value, without rounding.  Every number other than NaN is an
infinity or a signed coefficient times a power of ten: a power of two with a negative exponent is a
power of five over one of ten.  Magnitudes are compared by the place of their leading digit first, so a
far larger exponent never has to be multiplied out.
-/

set_option autoImplicit false

namespace RecordCheck.Number

/-- A number in the common form in which all kinds are compared. -/
inductive Exact where
  | nan
  | infinite (negative : Bool)
  | finite (negative : Bool) (coefficient : Nat) (exponent : Int)
  deriving DecidableEq, Repr

namespace Exact

/-- An integer. -/
def ofInt (n : Int) : Exact := .finite (n < 0) n.natAbs 0

/-- A floating point number. -/
def ofBinary64 : Binary64 → Exact
  | .nan => .nan
  | .infinite negative => .infinite negative
  | .finite negative mantissa exponent =>
    if 0 ≤ exponent then .finite negative (mantissa * Nat.pow 2 exponent.toNat) 0
    else .finite negative (mantissa * Nat.pow 5 (-exponent).toNat) exponent

/-- A decimal number. -/
def ofDecimal : Decimal → Exact
  | .nan .. => .nan
  | .infinite negative => .infinite negative
  | .finite negative coefficient exponent => .finite negative coefficient exponent

/-- Order of `c * 10 ^ e` and `d * 10 ^ f`. -/
def compareMagnitudes (c : Nat) (e : Int) (d : Nat) (f : Int) : Ordering :=
  if c = 0 ∨ d = 0 then compare c d
  else
    let place : Int := (Text.digits c).length + e
    let otherPlace : Int := (Text.digits d).length + f
    if place < otherPlace then .lt
    else if otherPlace < place then .gt
    else if e ≤ f then compare c (d * Nat.pow 10 (f - e).toNat)
    else compare (c * Nat.pow 10 (e - f).toNat) d

/-- Order of two numbers; none if one is NaN. -/
def compare? : Exact → Exact → Option Ordering
  | .nan, _ => none
  | _, .nan => none
  | .infinite n, .infinite m => some (compare m.toNat n.toNat)
  | .infinite n, .finite .. => some (if n then .lt else .gt)
  | .finite .., .infinite m => some (if m then .gt else .lt)
  | .finite n c e, .finite m d f =>
    if c = 0 ∧ d = 0 then some .eq
    else match n, m with
    | false, false => some (compareMagnitudes c e d f)
    | true, true => some (compareMagnitudes d f c e)
    | true, false => some .lt
    | false, true => some .gt

end Exact

end RecordCheck.Number
