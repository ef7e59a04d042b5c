import RecordCheck.Calendar.DateTime
import RecordCheck.Text.Blank

/-!
# Reading ISO 8601

A date is written with hyphens or without (`2024-01-31`, `20240131`), or by week (`2024-W05-3`,
`2024W053`, and `2024-W05` for its Monday).  After a date may come one separating character of any kind
and a time: two digits each for hours, minutes and seconds, with colons throughout or without any, then
a fraction, of which six digits count.  A sign begins an offset, written like a time.

The readers are lenient in the ways of their step-by-step scan: one stray character is passed over where
a part of the time ends before an offset.
-/

set_option autoImplicit false

namespace RecordCheck.Calendar.Iso

open Text (dropPrefix?)

/-- The value of an ASCII digit. -/
def digit? (c : Char) : Option Nat :=
  if '0' ≤ c ∧ c ≤ '9' then some (c.toNat - '0'.toNat) else none

/-- A number of exactly `count` digits and what follows it; `n` is the number read so far. -/
def digitsFrom? (n : Nat) : Nat → List Char → Option (Nat × List Char)
  | 0, s => some (n, s)
  | _ + 1, [] => none
  | count + 1, c :: rest => do
    let d ← digit? c
    digitsFrom? (10 * n + d) count rest

/-- A number of exactly `count` digits and what follows it. -/
def number? (count : Nat) (s : List Char) : Option (Nat × List Char) := digitsFrom? 0 count s

/-! ## Dates -/

/-- A hyphen where `hyphens` are used, nothing elsewhere. -/
def hyphen? (hyphens : Bool) (s : List Char) : Option (List Char) :=
  if hyphens then dropPrefix? ['-'] s else some s

/-- The date at the beginning of a text. -/
def date? (s : List Char) : Option Date := do
  let (year, rest) ← number? 4 s
  let (hyphens, rest) := match rest with
    | '-' :: after => (true, after)
    | _ => (false, rest)
  match rest with
  | 'W' :: rest =>
    let (week, rest) ← number? 2 rest
    if rest.isEmpty then Date.ofWeek? year week 1
    else
      let rest ← hyphen? hyphens rest
      let (day, _) ← number? 1 rest
      Date.ofWeek? year week day
  | _ =>
    let (month, rest) ← number? 2 rest
    let rest ← hyphen? hyphens rest
    let (day, _) ← number? 2 rest
    Date.ofParts? year month day

/-- The length of the date part of a text that also may hold a time, none if there can be no date.  The
fifth character tells hyphens from none and the week letter tells week dates; after a week written
without hyphens an odd number of digits begins with the day. -/
def dateLength? (s : List Char) : Option Nat :=
  if s.length < 7 then none
  else if s.length = 7 then some 7
  else if s[4]? = some '-' then
    if s[5]? = some 'W' then
      if s[8]? = some '-' then
        if s.length = 9 then none
        else if ((s[10]?).bind digit?).isSome then some 8 else some 10
      else some 8
    else some 10
  else if s[4]? = some 'W' then
    let count := ((s.drop 7).takeWhile fun c => (digit? c).isSome).length
    if count < 2 then some (7 + count) else if count % 2 = 1 then some 7 else some 8
  else some 8

/-! ## Times -/

/-- The parts of a time, each zero if absent. -/
structure Clock where
  hour : Nat
  minute : Nat
  second : Nat
  micro : Nat

/-- All parts zero. -/
def Clock.zero : Clock := ⟨0, 0, 0, 0⟩

/-- The time of day with these parts, if they are in range. -/
def Clock.toTimeOfDay? (c : Clock) : Option TimeOfDay :=
  TimeOfDay.ofParts? c.hour c.minute c.second c.micro

/-- The length of time in microseconds, parts out of range included. -/
def Clock.micros (c : Clock) : Nat :=
  (c.hour * 3600 + c.minute * 60 + c.second) * 1000000 + c.micro

/-- Whether a text is over; a null character ends it. -/
def isOver : List Char → Bool
  | [] => true
  | c :: _ => c.toNat == 0

/-- The fraction of a second, and whether it ends the text: up to six digits count and further digits
are passed over. -/
def fraction? (s : List Char) : Option (Nat × Bool) := do
  let count := min 6 s.length
  let (n, rest) ← number? count s
  return (n * Nat.pow 10 (6 - count), isOver (rest.dropWhile fun c => (digit? c).isSome))

/-- The parts of a time from the one with `later` parts after it on, and whether they end the text.
`colons` tells whether colons stand between the parts; it is settled after the hours.  A last single
byte is passed over, whatever it is. -/
def clockFrom? (clock : Clock) (colons : Bool) : (later : Nat) → List Char → Option (Clock × Bool)
  | 0, s => (fraction? s).map fun (micro, whole) => ({ clock with micro }, whole)
  | later + 1, s => do
    let (n, rest) ← number? 2 s
    let clock := match later with
      | 2 => { clock with hour := n }
      | 1 => { clock with minute := n }
      | _ => { clock with second := n }
    match rest with
    | [] => some (clock, true)
    | c :: after =>
      let colons := if later = 2 then c == ':' else colons
      if after.isEmpty && c.toNat < 0x80 then some (clock, c.toNat == 0)
      else if colons && c == ':' then clockFrom? clock colons later after
      else if c = '.' ∨ c = ',' then
        (fraction? after).map fun (micro, whole) => ({ clock with micro }, whole)
      else if colons then none
      else clockFrom? clock colons later (c :: after)

/-- The time at the beginning of a text, and whether it ends the text. -/
def clock? (s : List Char) : Option (Clock × Bool) := clockFrom? .zero false 3 s

/-- Whether a character begins an offset. -/
def beginsOffset (c : Char) : Bool := c = '+' || c = '-' || c = 'Z'

/-- The offset that a sign and a length of time denote.  One below a second counts as none. -/
def offset? (negative : Bool) (clock : Clock) : Option Offset :=
  if clock.micros < 1000000 then some .utc
  else Offset.ofMicros? (if negative then -(clock.micros : Int) else clock.micros)

/-- A time with an optional offset. -/
def time? (s : List Char) : Option (TimeOfDay × Option Offset) := do
  let (clock, whole) ← clock? (s.takeWhile fun c => !beginsOffset c)
  let time := clock.toTimeOfDay?
  match s.dropWhile fun c => !beginsOffset c with
  | [] => if whole then time.map (·, none) else none
  | sign :: rest =>
    if sign = 'Z' then (if isOver rest then time.map (·, some .utc) else none)
    else
      let (away, whole) ← clock? rest
      if whole then
        let offset ← offset? (sign = '-') away
        time.map (·, some offset)
      else none

/-! ## Dates with times -/

/-- A date with an optional time.  The character between them may be any. -/
def dateTime? (s : List Char) : Option DateTime := do
  let length ← dateLength? s
  let date ← date? (s.take length)
  match s.drop length with
  | [] => some ⟨date, .midnight, none⟩
  | _ :: rest => (time? rest).map fun (time, offset) => ⟨date, time, offset⟩

/-- The length of a text in UTF-8. -/
def byteLength (s : List Char) : Nat := s.foldl (fun length c => length + c.utf8Size) 0

/-- A date at the beginning of a text that has, in UTF-8, the length of one of the forms. -/
def dateOnly? (s : List Char) : Option Date :=
  let length := byteLength s
  if length = 7 ∨ length = 8 ∨ length = 10 then date? s else none

end RecordCheck.Calendar.Iso
