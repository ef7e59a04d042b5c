import RecordCheck.Coercion.Basic
import RecordCheck.Custom.Dispatch

/-!
# Validation

A value is validated against a rule by recursion on the rule.  A record is validated field by field, in
the order of the schema, and an array element by element; every field and element is validated even if
an earlier one is rejected.  Conditional rules are replaced by the rule that is active.  Hooks play no
part here.
-/

set_option autoImplicit false

namespace RecordCheck

open Coercion

/-- What a rule tells the custom validator that it refers to. -/
def Common.request (common : Common) (typeName : Value) (options : Entries) : Custom.Request :=
  ⟨typeName, options, common.required⟩

/-- The outcome of a value that no rule looks at, because none is active or the value is blank. -/
def unchecked (value : Value) (required : Bool) : Attempt Outcome :=
  if value.isBlank && required then Outcome.rejectFor value .required []
  else pure (.accept value)

/-- The outcome of an array's items, given how to validate them. -/
def validateItems (validate : Value → Attempt Outcome) (items : List Value) : Attempt Outcome := do
  return mergeElements items (← items.mapM validate)

namespace Rule

mutual

/-- Validate a value against a rule.  Where the value stands in a place that may be left blank, a blank
value is not looked at further. -/
def validate (registry : Custom.Registry) (context : Context) (mayBeBlank : Bool) :
    Rule → Value → Attempt Outcome
  | conditional common field conditions consequent otherwise base, value => do
    if ← conditions.holdIn field context.data then
      validate registry context true consequent value
    else
      validateBranch registry context
        (validateBranch registry context (fun v => unchecked v common.required.isTruthy) base)
        otherwise value
  | object common fields defaults, value =>
    if mayBeBlank && value.isBlank then unchecked value common.required.isTruthy
    else match value with
      | .dict entries => do
        let data := Entries.withDefaults entries defaults
        return mergeFields data
          (← validateFields registry (context.forData data) data fields)
      | _ => Outcome.rejectFor value .object []
  | array common (some element) checks, value =>
    if mayBeBlank && value.isBlank then unchecked value common.required.isTruthy
    else do
      match ← coerceArray checks context.convert value with
      | .accepted (.list items) _ => do
        let _ ← element.activate context.data
        validateItems (validate registry context true element) items
      | outcome => return outcome
  | custom common typeName options, value =>
    if mayBeBlank && value.isBlank then unchecked value common.required.isTruthy
    else Custom.dispatch registry (common.request typeName options) value context
  | r, value =>
    if mayBeBlank && value.isBlank then unchecked value r.isRequired
    else coerce r value context

/-- Validate a value against a branch, or as `absent` says if there is no such branch. -/
def validateBranch (registry : Custom.Registry) (context : Context)
    (absent : Value → Attempt Outcome) : Option Rule → Value → Attempt Outcome
  | none, value => absent value
  | some r, value => validate registry context true r value

/-- Validate fields of a record. -/
def validateFields (registry : Custom.Registry) (context : Context) (data : Entries) :
    List (Value × Rule) → Attempt (List (Value × Outcome))
  | [] => pure []
  | (name, r) :: rest => do
    let (_, required) ← r.activate data
    let outcome ← match data.resolve name with
      | none => Outcome.absent required.isTruthy
      | some (_, value) => validate registry context true r value
    return (name, outcome) :: (← validateFields registry context data rest)

end

end Rule

/-- Validate a field of a record. -/
def validateField (registry : Custom.Registry) (context : Context) (data : Entries) (name : Value)
    (rule : Rule) : Attempt Outcome := do
  let (_, required) ← rule.activate data
  match data.resolve name with
  | none => Outcome.absent required.isTruthy
  | some (_, value) => rule.validate registry context true value

/-- Validate the items of an array against the rule for its elements. -/
def validateElements (registry : Custom.Registry) (context : Context) (rule : Rule)
    (items : List Value) : Attempt Outcome := do
  let _ ← rule.activate context.data
  validateItems (rule.validate registry context true) items

/-- Validate a record against a schema. -/
def Schema.validate (registry : Custom.Registry) (context : Context) (schema : Schema)
    (value : Value) : Attempt Outcome :=
  match value with
  | .dict entries => do
    let data := Entries.withDefaults entries schema.defaults
    return mergeFields data
      (← Rule.validateFields registry (context.forData data) data schema.fields)
  | _ => notARecord value

end RecordCheck
