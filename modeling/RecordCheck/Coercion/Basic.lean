import RecordCheck.Coercion.Array
import RecordCheck.Coercion.Boolean
import RecordCheck.Coercion.Date
import RecordCheck.Coercion.Number

/-!
# Values under rules without parts

Confirming a value goes in two phases.  First its type is confirmed, by conversion if the context allows
it, which fails with a single error.  Then every constraint is checked, and all that are violated are
reported in order.  For an array this covers the array itself, not its elements.
-/

set_option autoImplicit false

namespace RecordCheck.Coercion

/-- An outcome, rejected for the constraints that its value violates if it is accepted. -/
def constrain (confirmed : Outcome) (check : Value → Attempt (List Entry)) : Attempt Outcome :=
  match confirmed with
  | .rejected value errors => pure (.rejected value errors)
  | .accepted value notes => do
    match ← check value with
    | [] => return .accepted value notes
    | errors => return .reject value errors

/-- A check of texts as a check of values. -/
def onText (check : String → Attempt (List Entry)) (value : Value) : Attempt (List Entry) :=
  match value.text? with
  | some s => check s
  | none => pure []

/-- A check of numbers as a check of values. -/
def onNumber (check : Number → Attempt (List Entry)) (value : Value) : Attempt (List Entry) :=
  match value.number? with
  | some n => check n
  | none => pure []

/-- A check of lists as a check of values. -/
def onList (check : List Value → Attempt (List Entry)) (value : Value) : Attempt (List Entry) :=
  match value with
  | .list items => check items
  | _ => pure []

/-- A value under a text rule. -/
def coerceText (common : Common) (checks : TextChecks) (convert : Bool) (value : Value) :
    Attempt Outcome := do
  constrain (← ensureText common.required.isTruthy convert value) (onText (checkText checks))

/-- A value under a number rule. -/
def coerceNumber (checks : NumberChecks) (convert : Bool) (value : Value) : Attempt Outcome := do
  constrain (← ensureNumber convert value) (onNumber (checkNumber checks))

/-- A value under an array rule, its elements left as they are. -/
def coerceArray (checks : ArrayChecks) (convert : Bool) (value : Value) : Attempt Outcome := do
  constrain (← ensureArray checks.delimiter convert value) (onList (checkArray checks))

/-- A value under a rule for texts, numbers, truth values, dates or arrays. -/
def coerce (rule : Rule) (value : Value) (context : Context) : Attempt Outcome :=
  match rule with
  | .text common checks => coerceText common checks context.convert value
  | .number _ checks => coerceNumber checks context.convert value
  | .boolean _ words => ensureBoolean words context.convert value
  | .date _ => ensureDate context.convert value
  | .array _ _ checks => coerceArray checks context.convert value
  | .object .. => refuse (.noCoercion "ObjectRule")
  | .conditional .. => refuse (.noCoercion "ConditionalRule")
  | .custom .. => refuse (.noCoercion "CustomRule")

end RecordCheck.Coercion
