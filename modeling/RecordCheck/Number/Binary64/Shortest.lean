import RecordCheck.Number.Binary64

/-!
# Shortest decimal text of a floating point number

A finite number is written with the fewest decimal digits that read back as the same number; among
those, with the decimal nearest to it, a tie to the even last digit.  The reals that read back form an
interval around the number, its ends included when the mantissa is even.  On the grid of decimals with
`n` digits only the two neighbours of the number can be the answer, so the first `n` with a neighbour
inside the interval decides.
-/

set_option autoImplicit false

namespace RecordCheck.Number.Binary64

/-- The reals that round to a number, as quarter steps of its last mantissa bit: from `low` to `high`
over the common denominator `den`, with the number itself at `value`. -/
structure Interval where
  low : Nat
  value : Nat
  high : Nat
  den : Nat
  closed : Bool

/-- The interval of a positive number.  Below a power of two the numbers lie twice as close. -/
def interval (mantissa : Nat) (exponent : Int) : Interval :=
  let below := if mantissa = Nat.pow 2 (precision - 1) ∧ leastExponent < exponent then 1 else 2
  let (unit, den) := scaled 2 1 (exponent - 2)
  ⟨(4 * mantissa - below) * unit, 4 * mantissa * unit, (4 * mantissa + 2) * unit, den,
    mantissa % 2 == 0⟩

/-- Whether the rational `num / den` lies in the interval. -/
def Interval.contains (i : Interval) (num den : Nat) : Bool :=
  let point := num * i.den
  let low := i.low * den
  let high := i.high * den
  if i.closed then low ≤ point && point ≤ high else low < point && point < high

/-- The exponent of ten of the leading digit of `num / den`. -/
def leadingExponent (num den : Nat) : Int :=
  let guess : Int := ((Text.digits num).length : Int) - (Text.digits den).length
  let (n, d) := scaled 10 num (-guess)
  if n < d * den then guess - 1 else guess

/-- The decimal on the grid of step `10 ^ step` that lies in the interval, the nearer of two. -/
def onGrid? (i : Interval) (step : Int) : Option Nat :=
  let (n, d) := scaled 10 i.value (-step)
  let den := d * i.den
  let low := n / den
  let fits (k : Nat) : Bool :=
    let (num, unit) := scaled 10 k step
    i.contains num unit
  match fits low, fits (low + 1) with
  | true, true => some (roundHalfEven n den)
  | true, false => some low
  | false, true => some (low + 1)
  | false, false => none

/-- The decimal of fewest digits, searched from the coarsest grid on; `count` grids remain. -/
def shortestFrom (i : Interval) (step : Int) : Nat → Nat × Int
  | 0 => (i.value / i.den, 0)
  | count + 1 =>
    match onGrid? i step with
    | some k => (k, step)
    | none => shortestFrom i (step - 1) count

/-- A decimal without trailing zeros: digits, most significant first, and the exponent of ten of the
leading one. -/
def withoutTrailingZeros (k : Nat) (step : Int) : List Char × Int :=
  let text := Text.digits k
  ((text.reverse.dropWhile (· = '0')).reverse, step + text.length - 1)

/-- The shortest digits of a positive number and the exponent of ten of the leading one. -/
def shortest (mantissa : Nat) (exponent : Int) : List Char × Int :=
  let i := interval mantissa exponent
  let (k, step) := shortestFrom i (leadingExponent i.value i.den) 18
  withoutTrailingZeros k step

/-! ## Layout -/

/-- The decision between the two layouts: positional from `10 ^ positionalFrom` up to below
`10 ^ positionalBelow`, with the exponent's digits padded to `exponentWidth` elsewhere. -/
structure Layout where
  positionalFrom : Int
  positionalBelow : Int
  exponentWidth : Nat

/-- Numbers are positional from 0.0001 up to below 10^16; exponents have at least two digits. -/
def layout : Layout := ⟨-4, 16, 2⟩

/-- Digits with the decimal point after `before` of them; a missing side is filled with zeros and the
fraction has at least one digit. -/
def withPoint (digits : List Char) (before : Int) : List Char :=
  if before ≤ 0 then ['0', '.'] ++ List.replicate (-before).toNat '0' ++ digits
  else
    let whole := digits.take before.toNat
    let fraction := digits.drop before.toNat
    whole ++ List.replicate (before.toNat - whole.length) '0' ++ ['.'] ++
      (if fraction.isEmpty then ['0'] else fraction)

/-- Digits in exponent form: one digit, a point if more follow, and the signed exponent. -/
def withExponent (digits : List Char) (exponent : Int) : List Char :=
  let power := Text.paddedDigits layout.exponentWidth exponent.natAbs
  digits.take 1 ++ (if digits.length ≤ 1 then [] else '.' :: digits.drop 1) ++
    ['e', if exponent < 0 then '-' else '+'] ++ power

/-- The text of a number. -/
def text : Binary64 → List Char
  | .nan => ['n', 'a', 'n']
  | .infinite negative => (if negative then ['-'] else []) ++ ['i', 'n', 'f']
  | .finite negative mantissa exponent =>
    let body :=
      if mantissa = 0 then ['0', '.', '0']
      else
        let (digits, leading) := shortest mantissa exponent
        if layout.positionalFrom ≤ leading ∧ leading < layout.positionalBelow then
          withPoint digits (leading + 1)
        else withExponent digits leading
    (if negative then ['-'] else []) ++ body

end RecordCheck.Number.Binary64
