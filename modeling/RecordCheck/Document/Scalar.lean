import RecordCheck.Calendar.DateTime
import RecordCheck.Number.Numeral
import RecordCheck.Value.Equality

/-!
# Plain scalars of YAML

A scalar without quotes denotes a truth value, null, an integer, a floating point number, a date with or
without a time or, if it has none of their forms, itself as a text.  The forms are those of YAML 1.1: `yes` and `on` are true,
integers may be binary, octal, hexadecimal or in base sixty, and digits may be separated by underscores.
-/

set_option autoImplicit false

namespace RecordCheck.Yaml

open Number

/-- The words for true. -/
def trueWords : List String :=
  ["yes", "Yes", "YES", "true", "True", "TRUE", "on", "On", "ON"]

/-- The words for false. -/
def falseWords : List String :=
  ["no", "No", "NO", "false", "False", "FALSE", "off", "Off", "OFF"]

/-- The words for null. -/
def nullWords : List String := ["", "~", "null", "Null", "NULL"]

/-- The value of a digit in a base of at most sixteen. -/
def digitIn? (base : Nat) (c : Char) : Option Nat := (Text.hexValue? c).filter (· < base)

/-- The digits of a numeral in a base, underscores left out; there must be a character. -/
def digitsIn? (base : Nat) (s : List Char) : Option (List Nat) :=
  if s.isEmpty then none else (s.filter (· != '_')).mapM (digitIn? base)

/-- The number that digits in a base denote. -/
def ofDigitsIn (base : Nat) (ds : List Nat) : Nat := ds.foldl (fun n d => base * n + d) 0

/-- The parts of a numeral in base sixty after the first: one or two digits each, less than sixty. -/
def sixtieth? (s : List Char) : Option Nat :=
  match s with
  | [a] => digitIn? 10 a
  | [a, b] => do
    let high ← digitIn? 6 a
    let low ← digitIn? 10 b
    return 10 * high + low
  | _ => none

/-- The number that a numeral in base sixty denotes. -/
def baseSixty? (s : List Char) : Option Nat :=
  match Text.splitOn [':'] s with
  | first :: second :: more => do
    let ds ← digitsIn? 10 first
    let parts ← (second :: more).mapM sixtieth?
    return ofDigitsIn 60 (ofDigits ds :: parts)
  | _ => none

/-- The digits of an integer in base ten: zero alone or digits that do not begin with zero. -/
def decimalDigits? (s : List Char) : Option (List Nat) :=
  match s with
  | ['0'] => some [0]
  | c :: _ => if c = '0' ∨ c = '_' then none else digitsIn? 10 s
  | [] => none

/-- The magnitude of an integer, given what follows its sign. -/
def magnitude? (s : List Char) : Option Nat :=
  match s with
  | '0' :: 'b' :: rest => (digitsIn? 2 rest).map (ofDigitsIn 2)
  | '0' :: 'x' :: rest => (digitsIn? 16 rest).map (ofDigitsIn 16)
  | '0' :: c :: rest => (digitsIn? 8 (c :: rest)).map (ofDigitsIn 8)
  | s =>
    match decimalDigits? s with
    | some ds => some (ofDigits ds)
    | none => if s.head? = some '_' then none else baseSixty? s

/-- The integer that a scalar denotes. -/
def integer? (s : List Char) : Option Int :=
  let (negative, rest) := takeSign s
  (magnitude? rest).map (signed negative)

/-- An exponent with its sign, which must be there, or nothing. -/
def exponent? (s : List Char) : Option Int :=
  match s with
  | [] => some 0
  | e :: sign :: rest =>
    if (e = 'e' ∨ e = 'E') ∧ (sign = '+' ∨ sign = '-') ∧ !rest.contains '_' then
      (digitsIn? 10 rest).map fun ds => signed (sign = '-') (ofDigits ds)
    else none
  | _ => none

/-- The floating point number that a scalar with a point denotes. -/
def pointed? (negative : Bool) (s : List Char) : Option Binary64 :=
  let isDigit (c : Char) : Bool := c = '_' || (digitIn? 10 c).isSome
  let whole := s.takeWhile isDigit
  match s.dropWhile isDigit with
  | '.' :: rest => do
    let fraction := rest.takeWhile isDigit
    let exponent ← exponent? (rest.dropWhile isDigit)
    let ds := ((whole ++ fraction).filter (· != '_')).filterMap (digitIn? 10)
    let places := (fraction.filter (· != '_')).length
    if whole.head? = some '_' ∨ (whole.isEmpty ∧ ((digitIn? 10) =<< fraction.head?).isNone) then none
    else some (Binary64.ofScientific negative (ofDigits ds) (exponent - places))
  | _ => none

/-- The floating point number that a scalar denotes.  A point right after a sign belongs to no
number. -/
def float? (s : List Char) : Option Binary64 :=
  let (negative, rest) := takeSign s
  if [".inf", ".Inf", ".INF"].contains (String.ofList rest) then some (.infinite negative)
  else if [".nan", ".NaN", ".NAN"].contains (String.ofList s) then some .nan
  else if rest.head? = some '.' ∧ rest.length < s.length then none
  else pointed? negative rest

/-! ## Dates -/

/-- From one to so many digits at the beginning of a text, as a number, and what follows them. -/
def number? (least most : Nat) (s : List Char) : Option (Nat × List Char) := do
  let ds := (s.take most).takeWhile fun c => (digitIn? 10 c).isSome
  if ds.length < least then none
  else return (ofDigits (← digitsIn? 10 ds), s.drop ds.length)

/-- What follows a character at the beginning of a text. -/
def after? (c : Char) (s : List Char) : Option (List Char) :=
  if s.head? = some c then some (s.drop 1) else none

/-- The date that a scalar denotes. -/
def date? (s : List Char) : Option Calendar.Date := do
  let (year, s) ← number? 4 4 s
  let (month, s) ← number? 2 2 (← after? '-' s)
  let (day, s) ← number? 2 2 (← after? '-' s)
  if s.isEmpty then Calendar.Date.ofParts? year month day else none

/-- Whether a character is a space or a tabulator. -/
def isGap (c : Char) : Bool := c = ' ' || c = '\t'

/-- What follows the letter or the blanks between a date and a time. -/
def afterSeparator? (s : List Char) : Option (List Char) :=
  match s with
  | 'T' :: rest | 't' :: rest => some rest
  | c :: rest => if isGap c then some (rest.dropWhile isGap) else none
  | [] => none

/-- The fraction of a second in microseconds, if there is a point, and what follows it. -/
def fraction (s : List Char) : Nat × List Char :=
  match s with
  | '.' :: rest =>
    let ds := rest.takeWhile fun c => (digitIn? 10 c).isSome
    (ofDigits (((ds ++ List.replicate 6 '0').take 6).filterMap (digitIn? 10)), rest.drop ds.length)
  | s => (0, s)

/-- The offset from UTC in hours and minutes, `Z` for none. -/
def offset? (s : List Char) : Option Calendar.Offset :=
  match s with
  | ['Z'] => some .utc
  | sign :: rest => do
    if sign != '+' && sign != '-' then none
    let (hours, rest) ← number? 1 2 rest
    let (minutes, rest) ← if rest.isEmpty then some (0, []) else number? 2 2 (← after? ':' rest)
    if rest.isEmpty then
      Calendar.Offset.ofMicros? (signed (sign = '-') ((hours * 60 + minutes) * 60000000))
    else none
  | [] => none

/-- The date with a time that a scalar denotes. -/
def dateTime? (s : List Char) : Option Calendar.DateTime := do
  let (year, s) ← number? 4 4 s
  let (month, s) ← number? 1 2 (← after? '-' s)
  let (day, s) ← number? 1 2 (← after? '-' s)
  let (hour, s) ← number? 1 2 (← afterSeparator? s)
  let (minute, s) ← number? 2 2 (← after? ':' s)
  let (second, s) ← number? 2 2 (← after? ':' s)
  let (micro, s) := fraction s
  let date ← Calendar.Date.ofParts? year month day
  let time ← Calendar.TimeOfDay.ofParts? hour minute second micro
  if s.isEmpty then return ⟨date, time, none⟩
  else return ⟨date, time, some (← offset? (s.dropWhile isGap))⟩

/-- The value of a scalar that is neither a word nor a number: a date or a text. -/
def dateOrText (s : List Char) : Value :=
  match date? s, dateTime? s with
  | some d, _ => .date d
  | none, some t => .dateTime t
  | none, none => .text (String.ofList s)

/-- The value that a plain scalar denotes. -/
def plain (s : List Char) : Value :=
  let word := String.ofList s
  if trueWords.contains word then .bool true
  else if falseWords.contains word then .bool false
  else if nullWords.contains word then .null
  else match integer? s, float? s with
    | some n, _ => .int n
    | none, some x => .number (.float x)
    | none, none => dateOrText s

end RecordCheck.Yaml
