import RecordCheck.Coercion.Text

/-!
# Numbers under a rule

A number rule takes numbers that are finite.  Where values are converted it takes numerals too: an
integer numeral is an integer, any other decimal numeral the nearest floating point number.
-/

set_option autoImplicit false

namespace RecordCheck.Coercion

open Number Text

/-- The number that a numeral denotes, blanks around it ignored; none if it is no numeral or an integer
numeral with too many digits. -/
def parseNumber (s : List Char) : Option Number :=
  let s := trim s
  match integerNumeral? s with
  | some (negative, ds) =>
    if ds.length ≤ digitLimit then some (.int (signed negative (ofDigits ds))) else none
  | none => (decimalNumeral? s).map fun n => .float n.toBinary64

/-- The number that a value stands for; without conversion only a number stands for one. -/
def numberOf? (convert : Bool) (value : Value) : Option Number :=
  match value.text? with
  | some s => if convert then parseNumber s.toList else none
  | none => value.number?

/-- A value as a finite number. -/
def ensureNumber (convert : Bool) (value : Value) : Attempt Outcome :=
  match numberOf? convert value with
  | none => Outcome.rejectFor value .number []
  | some n =>
    if n.isFinite then pure (.accept (.number n)) else Outcome.rejectFor (.number n) .number []

/-- An entry if an integer is asked for and not given. -/
def integerEntry (integer : Value) (n : Number) : Attempt (List Entry) := do
  if integer.isTruthy && !n.isIntegral then return [← Entry.ofCode .numberInteger []]
  else return []

/-- Every constraint that a number violates. -/
def checkNumber (checks : NumberChecks) (n : Number) : Attempt (List Entry) := do
  let low ← limitEntry .less (.number n) checks.min .numberMin "min"
  let high ← limitEntry .greater (.number n) checks.max .numberMax "max"
  return low ++ high ++ (← integerEntry checks.integer n)

end RecordCheck.Coercion
