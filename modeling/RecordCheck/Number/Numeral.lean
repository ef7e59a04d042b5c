import RecordCheck.Number.Binary64
import RecordCheck.Text.Blank

/-!
# Numerals

Readers for written numbers.  A digit may belong to any script.  An integer numeral is a sign and
digits; a decimal numeral has digits with an optional point and exponent.  Conversions between
integers and decimal text refuse more than `digitLimit` digits, leading zeros included.
-/

set_option autoImplicit false

namespace RecordCheck.Number

open Text

/-- The most digits an integer may have to be read from or written as decimal text. -/
def digitLimit : Nat := 4300

/-- The number that a list of digits denotes. -/
def ofDigits (ds : List Nat) : Nat := ds.foldl (fun n d => 10 * n + d) 0

/-- The leading digits of a text, as values, and what follows them. -/
def takeDigits : List Char → List Nat × List Char
  | [] => ([], [])
  | c :: rest =>
    match digitValue? c with
    | some d => let (ds, after) := takeDigits rest; (d :: ds, after)
    | none => ([], c :: rest)

/-- An optional sign: whether it was a minus, and what follows. -/
def takeSign : List Char → Bool × List Char
  | '-' :: rest => (true, rest)
  | '+' :: rest => (false, rest)
  | rest => (false, rest)

/-- A magnitude with a sign. -/
def signed (negative : Bool) (n : Nat) : Int := if negative then -(n : Int) else n

/-! ## Written integers -/

/-- The text of an integer, without regard to its length. -/
def integerText (n : Int) : List Char :=
  (if n < 0 then ['-'] else []) ++ digits n.natAbs

/-- Whether an integer has at most `digitLimit` digits. -/
def fitsText (n : Int) : Bool := n.natAbs < Nat.pow 10 digitLimit

/-- Sign and digits of an integer numeral: an optional sign and at least one digit, nothing else. -/
def integerNumeral? (s : List Char) : Option (Bool × List Nat) :=
  let (negative, rest) := takeSign s
  match takeDigits rest with
  | (d :: ds, []) => some (negative, d :: ds)
  | _ => none

/-! ## Written decimals -/

/-- A decimal numeral: `digits` with the last `places` of them after the point, times a power of
ten. -/
structure DecimalNumeral where
  negative : Bool
  digits : List Nat
  places : Nat
  exponent : Int

/-- An exponent part: `e` or `E`, an optional sign and digits.  An absent one is zero. -/
def exponentPart? : List Char → Option Int
  | [] => some 0
  | c :: rest =>
    if c = 'e' ∨ c = 'E' then
      (integerNumeral? rest).map fun (negative, ds) => signed negative (ofDigits ds)
    else none

/-- A decimal numeral: a sign, digits with a point before, among or after them, and an exponent. -/
def decimalNumeral? (s : List Char) : Option DecimalNumeral :=
  let (negative, rest) := takeSign s
  let (whole, rest) := takeDigits rest
  let (fraction, rest) := match rest with
    | '.' :: after => takeDigits after
    | _ => ([], rest)
  if whole.isEmpty && fraction.isEmpty then none
  else (exponentPart? rest).map fun exponent =>
    ⟨negative, whole ++ fraction, fraction.length, exponent⟩

/-- The floating point number nearest to a decimal numeral. -/
def DecimalNumeral.toBinary64 (n : DecimalNumeral) : Binary64 :=
  Binary64.ofScientific n.negative (ofDigits n.digits) (n.exponent - n.places)

/-! ## Lenient readers -/

/-- The digits of a numeral in which single underscores may stand between digits. -/
def separatedDigits? : List Char → Option (List Nat)
  | [] => some []
  | '_' :: c :: rest => do
    let d ← digitValue? c
    let ds ← separatedDigits? rest
    return d :: ds
  | c :: rest => do
    let d ← digitValue? c
    let ds ← separatedDigits? rest
    return d :: ds

/-- Whether a character may stand around a numeral: any blank, but not the separators U+001C to U+001F. -/
def isPadding (c : Char) : Bool := isBlank c && !(0x1C ≤ c.toNat && c.toNat ≤ 0x1F)

/-- A text without what may stand around a numeral. -/
def trimPadding (s : List Char) : List Char :=
  ((s.dropWhile isPadding).reverse.dropWhile isPadding).reverse

/-- Sign and digits of an integer numeral with padding around it and single underscores between its
digits. -/
def lenientInteger? (s : List Char) : Option (Bool × List Nat) :=
  let (negative, rest) := takeSign (trimPadding s)
  match rest with
  | [] => none
  | c :: _ =>
    if c = '_' then none else (separatedDigits? rest).map fun ds => (negative, ds)

end RecordCheck.Number
