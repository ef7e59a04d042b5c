import RecordCheck.Calendar.Date

/-!
# Date and time

A date with a time of day to the microsecond and, unless it is naive, an offset from UTC of less than a
day.  Two aware values denote the same instant when they agree after taking off their offsets.
-/

set_option autoImplicit false

namespace RecordCheck.Calendar

/-- Microseconds in a day. -/
def dayLength : Nat := 86400000000

/-- An offset from UTC in microseconds, strictly between minus and plus one day. -/
structure Offset where
  micros : Int
  lt_day : micros.natAbs < dayLength
  deriving DecidableEq, Repr

namespace Offset

/-- The offset of UTC itself. -/
def utc : Offset := ⟨0, by decide⟩

/-- The offset of this many microseconds, if it is less than a day. -/
def ofMicros? (micros : Int) : Option Offset :=
  if h : micros.natAbs < dayLength then some ⟨micros, h⟩ else none

end Offset

/-- A time of day. -/
structure TimeOfDay where
  hour : Nat
  minute : Nat
  second : Nat
  micro : Nat
  hour_lt : hour < 24
  minute_lt : minute < 60
  second_lt : second < 60
  micro_lt : micro < 1000000
  deriving DecidableEq, Repr

namespace TimeOfDay

/-- The beginning of the day. -/
def midnight : TimeOfDay := ⟨0, 0, 0, 0, by decide, by decide, by decide, by decide⟩

/-- The time with these parts, if there is one. -/
def ofParts? (hour minute second micro : Nat) : Option TimeOfDay :=
  if h : hour < 24 ∧ minute < 60 ∧ second < 60 ∧ micro < 1000000 then
    some ⟨hour, minute, second, micro, h.1, h.2.1, h.2.2.1, h.2.2.2⟩
  else none

/-- Microseconds since midnight. -/
def micros (t : TimeOfDay) : Nat :=
  ((t.hour * 60 + t.minute) * 60 + t.second) * 1000000 + t.micro

/-- The time this many microseconds after midnight, a whole number of days left out. -/
def ofMicros (n : Nat) : TimeOfDay :=
  ⟨n / 3600000000 % 24, n / 60000000 % 60, n / 1000000 % 60, n % 1000000,
    Nat.mod_lt _ (by decide), Nat.mod_lt _ (by decide), Nat.mod_lt _ (by decide),
    Nat.mod_lt _ (by decide)⟩

end TimeOfDay

/-- A date and time, naive without an offset and aware with one. -/
structure DateTime where
  date : Date
  time : TimeOfDay
  offset : Option Offset
  deriving DecidableEq, Repr

namespace DateTime

/-- Microseconds of the local time since the beginning of the calendar. -/
def localMicros (t : DateTime) : Int := t.date.dayNumber * dayLength + t.time.micros

/-- The instant of an aware value, in microseconds since the beginning of the calendar in UTC; a naive
value is read as UTC. -/
def instant (t : DateTime) : Int :=
  t.localMicros - (match t.offset with | some o => o.micros | none => 0)

/-- The value in UTC that denotes an instant, if it lies in the calendar. -/
def ofInstant? (micros : Int) : Option DateTime :=
  (Date.ofDayNumber? (micros.fdiv dayLength)).map fun date =>
    ⟨date, TimeOfDay.ofMicros (micros.fmod dayLength).toNat, some .utc⟩

/-- The same instant in UTC; a naive value is taken to be UTC already.  None outside the calendar. -/
def toUtc? (t : DateTime) : Option DateTime :=
  match t.offset with
  | none => some { t with offset := some .utc }
  | some o => if o = .utc then some t else ofInstant? t.instant

/-- Equality: of the fields for two naive values, of the instants for two aware ones. -/
def same (a b : DateTime) : Bool :=
  a.offset.isSome == b.offset.isSome && a.instant == b.instant

/-! ## Text -/

/-- Hours, minutes, seconds and, unless zero, six digits of microseconds. -/
def timeText (t : TimeOfDay) : List Char :=
  Text.paddedDigits 2 t.hour ++ ':' :: Text.paddedDigits 2 t.minute ++
    ':' :: Text.paddedDigits 2 t.second ++
    (if t.micro = 0 then [] else '.' :: Text.paddedDigits 6 t.micro)

/-- A signed offset in hours and minutes, with seconds and microseconds unless they are zero. -/
def offsetText (o : Offset) : List Char :=
  let n := o.micros.natAbs
  let second := n / 1000000 % 60
  let micro := n % 1000000
  (if o.micros < 0 then '-' else '+') :: Text.paddedDigits 2 (n / 3600000000) ++
    ':' :: Text.paddedDigits 2 (n / 60000000 % 60) ++
    (if second = 0 ∧ micro = 0 then [] else
      ':' :: Text.paddedDigits 2 second ++
        (if micro = 0 then [] else '.' :: Text.paddedDigits 6 micro))

/-- Date and time with the given character between them, and the offset of an aware value. -/
def textWith (separator : Char) (t : DateTime) : List Char :=
  t.date.text ++ separator :: timeText t.time ++ (t.offset.map offsetText).getD []

/-- The ISO 8601 text of a value. -/
def text (t : DateTime) : List Char := t.textWith 'T'

end DateTime

end RecordCheck.Calendar
