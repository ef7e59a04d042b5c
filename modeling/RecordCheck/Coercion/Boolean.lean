import RecordCheck.Outcome
import RecordCheck.Rule.Basic
import RecordCheck.Text.Case

/-!
# Truth values under a rule

A boolean rule takes truth values.  Where values are converted it takes the words of the rule, or the
default ones, too.  Texts are words without regard to case and blanks around them; other values are
words if they equal one that is no text.
-/

set_option autoImplicit false

namespace RecordCheck.Coercion

open Text

/-- The words that count as true by default. -/
def defaultTruthy : List Value :=
  [.bool true, .text "true", .text "1", .int 1, .text "yes", .text "on"]

/-- The words that count as false by default. -/
def defaultFalsy : List Value :=
  [.bool false, .text "false", .text "0", .int 0, .text "no", .text "off"]

/-- Whether a value is one of some words. -/
def isWord (value : Value) (words : List Value) : Attempt Bool :=
  match value.text? with
  | some s =>
    let sought := lower (trim s.toList)
    pure (words.any fun w => match w.text? with
      | some t => lower t.toList == sought
      | none => false)
  | none => words.anyM fun w => if w.isText then pure false else w.same value

/-- A value as a truth value. -/
def ensureBoolean (words : TruthWords) (convert : Bool) (value : Value) : Attempt Outcome := do
  if value.isBool then return .accept value
  if !convert then return ← Outcome.rejectFor value .boolean []
  if ← isWord value (words.truthy.getD defaultTruthy) then return .accept (.bool true)
  if ← isWord value (words.falsy.getD defaultFalsy) then return .accept (.bool false)
  Outcome.rejectFor value .boolean []

end RecordCheck.Coercion
