import RecordCheck.Calendar.Iso
import RecordCheck.Outcome
import RecordCheck.Rule.Basic

/-!
# Dates under a rule

A date rule takes dates and times.  Where values are converted it takes ISO 8601 texts too, which become
times in UTC; a time without an offset is taken to be in UTC, and a date to be its midnight.
-/

set_option autoImplicit false

namespace RecordCheck.Coercion

open Calendar Text

/-- The text with a final letter `Z` replaced by the offset that it stands for. -/
def spellOutZulu (s : List Char) : List Char :=
  match s.getLast? with
  | some 'Z' | some 'z' => s.dropLast ++ "+00:00".toList
  | _ => s

/-- The date and time that a text denotes, with the offset it gives. -/
def readDateTime? (s : List Char) : Option DateTime :=
  match Iso.dateTime? s with
  | some t => some t
  | none => (Iso.dateOnly? s).map fun d => ⟨d, .midnight, none⟩

/-- A date and time in UTC; one whose UTC date has no year of four digits is refused. -/
def normalizeToUtc (t : DateTime) : Attempt DateTime :=
  match t.offset with
  | none => pure { t with offset := some .utc }
  | some _ =>
    match t.toUtc? with
    | some u => pure u
    | none => refuse .dateRange

/-- The date and time in UTC that a text denotes, blanks around it ignored. -/
def parseDateTime (s : List Char) : Attempt (Option DateTime) :=
  match readDateTime? (spellOutZulu (trim s)) with
  | none => pure none
  | some t => do return some (← normalizeToUtc t)

/-- A value as a date. -/
def ensureDate (convert : Bool) (value : Value) : Attempt Outcome := do
  match value with
  | .date _ | .dateTime _ => return .accept value
  | _ =>
    if convert then
      if let some s := value.text? then
        if let some t ← parseDateTime s.toList then return .accept (.dateTime t)
    Outcome.rejectFor value .date []

end RecordCheck.Coercion
