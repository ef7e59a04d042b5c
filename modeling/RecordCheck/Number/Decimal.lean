import RecordCheck.Number.Numeral

/-!
# Decimal numbers

A decimal number is a sign, a coefficient and a power of ten, an infinity, or NaN, which may be
signaling and may carry digits.  The same value may have several coefficients (`1.0` and `1.00`); they
compare equal and print differently.
-/

set_option autoImplicit false

namespace RecordCheck.Number

open Text

/-- A decimal number.  A finite one is `coefficient * 10 ^ exponent`, negated if `negative`. -/
inductive Decimal where
  | finite (negative : Bool) (coefficient : Nat) (exponent : Int)
  | infinite (negative : Bool)
  | nan (signaling : Bool) (negative : Bool) (payload : Option Nat)
  deriving DecidableEq, Repr, Inhabited

namespace Decimal

/-- Whether a number is neither infinite nor NaN. -/
def isFinite : Decimal → Bool
  | .finite .. => true
  | _ => false

/-- Whether a number is NaN of either kind. -/
def isNaN : Decimal → Bool
  | .nan .. => true
  | _ => false

/-- Whether a number is a signaling NaN. -/
def isSignaling : Decimal → Bool
  | .nan signaling .. => signaling
  | _ => false

/-- Whether a number is greater than zero. -/
def isPositive : Decimal → Bool
  | .finite negative coefficient _ => !negative && coefficient != 0
  | .infinite negative => !negative
  | .nan .. => false

/-- Whether a number is a finite zero. -/
def isZero : Decimal → Bool
  | .finite _ coefficient _ => coefficient == 0
  | _ => false

/-! ## Text -/

/-- The text of a finite magnitude.  It is positional when the coefficient is not scaled up and the
leading digit stands at most six places after the point; otherwise it has one digit before the point
and an exponent. -/
def magnitudeText (coefficient : Nat) (exponent : Int) : List Char :=
  let ds := digits coefficient
  let before : Int := exponent + ds.length
  if exponent ≤ 0 ∧ -6 < before then
    if before ≤ 0 then ['0', '.'] ++ List.replicate (-before).toNat '0' ++ ds
    else
      let fraction := ds.drop before.toNat
      ds.take before.toNat ++ (if fraction.isEmpty then [] else '.' :: fraction)
  else
    let power := before - 1
    ds.take 1 ++ (if ds.length ≤ 1 then [] else '.' :: ds.drop 1) ++
      (if power = 0 then [] else ['E', if power < 0 then '-' else '+'] ++ digits power.natAbs)

/-- The text of a number. -/
def text : Decimal → List Char
  | .finite negative coefficient exponent =>
    (if negative then ['-'] else []) ++ magnitudeText coefficient exponent
  | .infinite negative => (if negative then ['-'] else []) ++ "Infinity".toList
  | .nan signaling negative payload =>
    (if negative then ['-'] else []) ++ (if signaling then ['s'] else []) ++ "NaN".toList ++
      (payload.map digits).getD []

/-- The special values by name, in lower case; what follows a NaN is its payload. -/
def special? (negative : Bool) (s : List Char) : Option Decimal :=
  let payload? (rest : List Char) : Option (Option Nat) :=
    match takeDigits rest with
    | ([], []) => some none
    | (ds, []) => some (some (ofDigits ds))
    | _ => none
  let lowered := s.map Char.toLower
  if lowered = "inf".toList ∨ lowered = "infinity".toList then some (.infinite negative)
  else match dropPrefix? "nan".toList lowered with
    | some rest => (payload? rest).map (.nan false negative)
    | none => (dropPrefix? "snan".toList lowered).bind fun rest =>
        (payload? rest).map (.nan true negative)

/-- The number that a text denotes. -/
def ofText? (s : List Char) : Option Decimal :=
  let (negative, rest) := takeSign (trim s)
  match special? negative rest with
  | some d => some d
  | none => (decimalNumeral? (trim s)).map fun n =>
      .finite n.negative (ofDigits n.digits) (n.exponent - n.places)

/-! ## Integers -/

/-- The integer part of a finite number, toward zero. -/
def truncate (negative : Bool) (coefficient : Nat) (exponent : Int) : Int :=
  let size : Int := (digits coefficient).length
  if coefficient = 0 ∨ size + exponent ≤ 0 then 0
  else
    let (num, den) := scaled 10 coefficient exponent
    signed negative (num / den)

/-- Whether a finite number is an integer, decided on its digits. -/
def isIntegral (coefficient : Nat) (exponent : Int) : Bool :=
  if coefficient = 0 ∨ 0 ≤ exponent then true
  else if ((digits coefficient).length : Int) + exponent ≤ 0 then false
  else coefficient % Nat.pow 10 (-exponent).toNat == 0

end Decimal

end RecordCheck.Number
