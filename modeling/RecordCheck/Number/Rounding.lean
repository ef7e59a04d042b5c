/-!
# Rounding of quotients

Quotients of natural numbers are rounded to the nearest integer, a half to the even neighbour.
-/

set_option autoImplicit false

namespace RecordCheck.Number

/-- The integer nearest to `num / den`; a half goes to the even neighbour. -/
def roundHalfEven (num den : Nat) : Nat :=
  let low := num / den
  let rest := num % den
  if 2 * rest < den then low
  else if den < 2 * rest then low + 1
  else if low % 2 = 0 then low else low + 1

/-- A product with a power of ten of any sign, as numerator and denominator. -/
def scaled (base : Nat) (num : Nat) (exponent : Int) : Nat × Nat :=
  if 0 ≤ exponent then (num * Nat.pow base exponent.toNat, 1)
  else (num, Nat.pow base (-exponent).toNat)

end RecordCheck.Number
