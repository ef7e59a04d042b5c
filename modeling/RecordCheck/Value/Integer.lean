import RecordCheck.Value.Text

/-!
# Integers that values stand for

A number stands for its integer part, and a text or bytes for the integer that they denote as a numeral,
blanks around it and single underscores between digits allowed.  Infinite numbers and NaN stand for
none.
-/

set_option autoImplicit false

namespace RecordCheck.Value

/-- The characters of bytes; those beyond ASCII have no place in a numeral. -/
def asciiChars (bytes : List UInt8) : List Char :=
  bytes.map fun b => if b.toNat < 128 then Char.ofNat b.toNat else '?'

/-- The integer that a numeral denotes; the value is the one that it was given as. -/
def integerOfNumeral (s : List Char) (v : Value) : Attempt Int :=
  match Number.lenientInteger? s with
  | none => do refuse (.notNumeral (← v.shownText))
  | some (negative, ds) =>
    if ds.length ≤ Number.digitLimit then pure (Number.signed negative (Number.ofDigits ds))
    else refuse (.longNumeral ds.length)

/-- The integer that a value stands for. -/
def toInteger (v : Value) : Attempt Int :=
  match v with
  | .bool b => pure (if b then 1 else 0)
  | .number (.int n) => pure n
  | .number (.float (.finite negative mantissa exponent)) =>
    pure (Number.Binary64.truncate negative mantissa exponent)
  | .number (.float x) => refuse (.notFinite false (x == .nan))
  | .number (.decimal (.finite negative coefficient exponent)) =>
    pure (Number.Decimal.truncate negative coefficient exponent)
  | .number (.decimal d) => refuse (.notFinite true d.isNaN)
  | .text s | .textMember s => integerOfNumeral s.toList v
  | .bytes b => integerOfNumeral (asciiChars b) v
  | v => refuse (.notNumber v.operandName)

end RecordCheck.Value
