import RecordCheck.Hook

/-!
# Rules and schemas

A schema names the fields of a record, gives a rule for each, and default values.  A rule is one of a
closed set: rules for texts, numbers, truth values and dates, for nested records and arrays, rules that
choose another rule by the value of a sibling field, and rules that refer to a custom type.  Parameters
are values as given; an absent one is null.
-/

set_option autoImplicit false

namespace RecordCheck

/-- What every rule has: whether a missing value is an error, a hook that runs after the other checks,
and a timeout for the hook in milliseconds. -/
structure Common where
  required : Value
  hook : Option Hook
  timeout : Value

/-- Constraints on a text: its length, a pattern found in it, and whether it is an email address. -/
structure TextChecks where
  min : Value
  max : Value
  pattern : Value
  email : Value

/-- Constraints on a number. -/
structure NumberChecks where
  min : Value
  max : Value
  integer : Value

/-- The values that count as true and as false when values are converted, in place of the default
ones. -/
structure TruthWords where
  truthy : Option (List Value)
  falsy : Option (List Value)

/-- Constraints on an array, and the text between the items of one that is written as a text. -/
structure ArrayChecks where
  minItems : Value
  maxItems : Value
  unique : Value
  delimiter : Value

/-- Checks on the value of a field; those that are absent hold. -/
structure Conditions where
  equals : Option Value
  oneOf : Option Value
  pattern : Value
  min : Value
  max : Value

/-- Whether at least one check is present. -/
def Conditions.isConfigured (c : Conditions) : Bool :=
  c.equals.isSome || c.oneOf.isSome || !c.pattern.isNull || !c.min.isNull || !c.max.isNull

/-- A rule for a value. -/
inductive Rule where
  | text (common : Common) (checks : TextChecks)
  | number (common : Common) (checks : NumberChecks)
  | boolean (common : Common) (words : TruthWords)
  | date (common : Common)
  | object (common : Common) (fields : List (Value × Rule)) (defaults : Entries)
  | array (common : Common) (element : Option Rule) (checks : ArrayChecks)
  | conditional (common : Common) (field : Value) (conditions : Conditions) (consequent : Rule)
      (otherwise base : Option Rule)
  | custom (common : Common) (typeName : Value) (options : Entries)

/-- The fields of a record with their rules, and default values. -/
structure Schema where
  fields : List (Value × Rule)
  defaults : Entries

namespace Rule

/-- What every rule has. -/
def common : Rule → Common
  | text common _ | number common _ | boolean common _ | date common | object common _ _
  | array common _ _ | conditional common _ _ _ _ _ | custom common _ _ => common

/-- The name of a rule's type. -/
def typeName : Rule → String
  | text .. => "string"
  | number .. => "number"
  | boolean .. => "boolean"
  | date .. => "date"
  | object .. => "object"
  | array .. => "array"
  | conditional .. => "conditional"
  | custom .. => "custom"

/-- Whether a missing value is an error. -/
def isRequired (r : Rule) : Bool := r.common.required.isTruthy

mutual

/-- Whether a rule or one under it has a hook. -/
def hasHook : Rule → Bool
  | text common _ | number common _ | boolean common _ | date common | custom common _ _ =>
    common.hook.isSome
  | object common fields _ => common.hook.isSome || fieldsHaveHook fields
  | array common element _ => common.hook.isSome || branchHasHook element
  | conditional common _ _ consequent otherwise base =>
    common.hook.isSome || consequent.hasHook || branchHasHook otherwise || branchHasHook base

/-- Whether a rule that may be absent has a hook. -/
def branchHasHook : Option Rule → Bool
  | none => false
  | some r => r.hasHook

/-- Whether a field's rule has a hook. -/
def fieldsHaveHook : List (Value × Rule) → Bool
  | [] => false
  | (_, r) :: rest => r.hasHook || fieldsHaveHook rest

end

end Rule

/-- Whether a schema has a hook. -/
def Schema.hasHook (s : Schema) : Bool := Rule.fieldsHaveHook s.fields

end RecordCheck
