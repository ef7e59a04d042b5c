import RecordCheck.Custom.Validator

/-!
# Registries of custom validators

A registry holds validators under names, in the order in which the names were first registered.  A name
that is taken is only registered again when that is allowed, and keeps its place then.
-/

set_option autoImplicit false

namespace RecordCheck.Custom

/-- Validators under names. -/
structure Registry where
  name : String
  validators : List (Value × Validator)

namespace Registry

/-- A registry without validators. -/
def empty (name : String) : Registry := ⟨name, []⟩

/-- The name of a registry that is given none. -/
def defaultName : String := "custom_types"

/-- The names of the validators. -/
def names (r : Registry) : List Value := r.validators.map (·.1)

/-- The validator under a name among others. -/
def find? (name : Value) : List (Value × Validator) → Option Validator
  | [] => none
  | (key, v) :: rest => if key.sameKey name then some v else find? name rest

/-- Validators with the one under a name replaced, or a new one at the end. -/
def put (name : Value) (validator : Validator) :
    List (Value × Validator) → List (Value × Validator)
  | [] => [(name, validator)]
  | (key, v) :: rest =>
    if key.sameKey name then (key, validator) :: rest else (key, v) :: put name validator rest

/-- The validator under a name, if there is one. -/
def get? (r : Registry) (name : Value) : Attempt (Option Validator) := do
  name.checkKey
  return find? name r.validators

/-- Whether there is a validator under a name. -/
def has (r : Registry) (name : Value) : Attempt Bool := return (← r.get? name).isSome

/-- The fault of a name that is not registered. -/
def missing (r : Registry) (name : Value) (available : Option (List Value)) : Attempt Fault := do
  return .registry (.notFound (← name.textOf) name r.name available)

/-- The validator under a name. -/
def get (r : Registry) (name : Value) : Attempt Validator := do
  match ← r.get? name with
  | some v => return v
  | none => throw (← r.missing name (some r.names))

/-- The registry with a validator under a name. -/
def store (r : Registry) (name : Value) (validator : Validator) : Registry :=
  { r with validators := put name validator r.validators }

/-- The registry without the validator under a name. -/
def remove (r : Registry) (name : Value) : Registry :=
  { r with validators := r.validators.filter fun e => !e.1.sameKey name }

/-- The registry without its validators. -/
def clear (r : Registry) : Registry := { r with validators := [] }

end Registry

/-! ## Changes -/

/-- Something that changes a registry step by step.  What was changed before a step fails stays changed. -/
abbrev Change := EStateM Fault Registry

namespace Change

/-- Register a candidate under a name.  Its shape is found out before the name is looked up, and the name
is written to the log when the validator is stored. -/
def register (name : Value) (candidate : Candidate) (overwrite : Bool) : Change Unit := do
  let validator ← liftExcept (candidate.toValidator name)
  let r ← get
  if (← liftExcept (r.has name)) && !overwrite then
    throw (.registry (.taken (← liftExcept name.textOf) name r.name))
  modify (Registry.store · name validator)
  let _ ← liftExcept name.textOf

/-- Remove the validator under a name. -/
def unregister (name : Value) : Change Unit := do
  let r ← get
  if ← liftExcept (r.has name) then modify (Registry.remove · name)
  else throw (← liftExcept (r.missing name none))

/-- Remove all validators. -/
def clear : Change Unit := modify Registry.clear

end Change

namespace Registry

/-- A registry after a change, if that succeeds. -/
def after (r : Registry) (change : Change Unit) : Attempt Registry :=
  match change.run r with
  | .ok () changed => pure changed
  | .error fault _ => throw fault

/-- Register a candidate under a name. -/
def register (r : Registry) (name : Value) (candidate : Candidate) (overwrite : Bool) :
    Attempt Registry :=
  r.after (.register name candidate overwrite)

/-- Remove the validator under a name. -/
def unregister (r : Registry) (name : Value) : Attempt Registry := r.after (.unregister name)

end Registry

end RecordCheck.Custom
