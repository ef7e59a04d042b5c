import RecordCheck.Custom.Answer
import RecordCheck.Custom.Registry

/-!
# Validating by a custom type

A value under a custom type is handed to the validator registered for the type.  A type that is not
registered, and a validator that fails, are errors of the value.
-/

set_option autoImplicit false

namespace RecordCheck.Custom

/-- The outcome of a value whose validator failed. -/
def failureOutcome (request : Request) (value : Value) (fault : Fault) : Attempt Outcome := do
  let typeName ← request.typeName.textOf
  let entry : Entry :=
    ⟨.text Code.customType.name,
      .text ("custom validator " ++ typeName ++ " failed: " ++ fault.message),
      [(.text "type", request.typeName), (.text "reason", .text fault.message)]⟩
  return .reject value [entry]

/-- The outcome of a value under a custom type. -/
def dispatch (registry : Registry) (request : Request) (value : Value) (context : Context) :
    Attempt Outcome := do
  match ← registry.get? request.typeName with
  | none => Outcome.rejectFor value .customType [(.text "type", request.typeName)]
  | some validator =>
    match validator value context request with
    | .error fault => failureOutcome request value fault
    | .ok answer => normalize answer value request.typeName

end RecordCheck.Custom
