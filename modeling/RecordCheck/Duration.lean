import RecordCheck.Fault

/-!
# Durations

A duration is given in milliseconds by any value that counts as a number.  Decimals do not mix with the
clock, whose readings are floating point numbers, and integers too large for one are refused.
-/

set_option autoImplicit false

namespace RecordCheck

/-- A number of milliseconds, which may be infinite or not be a number. -/
inductive Duration where
  | finite (ms : Rat)
  | infinite (negative : Bool)
  | undefined

namespace Duration

/-- The duration of a floating point number of milliseconds. -/
def ofBinary64 : Number.Binary64 → Duration
  | .nan => undefined
  | .infinite negative => infinite negative
  | .finite negative mantissa exponent =>
    let (num, den) := Number.Binary64.magnitude mantissa exponent
    finite (mkRat (Number.signed negative num) den)

/-- The duration of a whole number of milliseconds; in seconds it must be a floating point number. -/
def ofInt (ms : Int) : Attempt Duration :=
  if (Number.Binary64.ofRatio (ms < 0) ms.natAbs 1000).isFinite then pure (finite ms)
  else refuse .largeTimeout

/-- The fault of adding a decimal to a reading of the clock. -/
def ofDecimal (d : Number.Decimal) : Attempt Duration :=
  if d.isSignaling then refuse (.decimal .invalidOperation)
  else refuse (.badOperands "+" "float" "decimal.Decimal")

/-- The duration that a value gives. -/
def ofValue : Value → Attempt Duration
  | .bool b => ofInt (if b then 1 else 0)
  | .number (.int n) => ofInt n
  | .number (.float x) => pure (ofBinary64 x)
  | .number (.decimal d) => ofDecimal d
  | v => refuse (.badOperands "/" v.operandName "int")

/-- Whether a duration is over as soon as it begins.  One that is not a number is taken to be; an event loop
gets to such a timer when the others let it. -/
def isOver : Duration → Bool
  | finite ms => ms ≤ 0
  | infinite negative => negative
  | undefined => true

end Duration

end RecordCheck
