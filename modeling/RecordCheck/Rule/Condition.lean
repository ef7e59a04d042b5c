import RecordCheck.Lookup
import RecordCheck.Rule.Basic
import RecordCheck.Regex.Match
import RecordCheck.Value.Membership

/-!
# Conditional rules

A conditional rule looks at another field of the record and chooses one of its branches.  Branches may
be conditional themselves; the rule that is active in the end is not, or there is none.
-/

set_option autoImplicit false

namespace RecordCheck

/-! ## Conditions -/

/-- Whether a pattern is found in a text; anything else than a pattern cannot be searched for. -/
def findsPattern (pattern : Value) (text : String) : Attempt Bool :=
  match pattern with
  | .pattern p => pure (p.search text)
  | v => refuse (.noMember v.operandName "search")

namespace Conditions

/-- Whether a value is the one asked for. -/
def equalsHolds (c : Conditions) (value : Value) : Attempt Bool :=
  match c.equals with
  | none => pure true
  | some v => value.same v

/-- Whether a value is a member of the container asked for.  Where membership is not defined, it is
not. -/
def oneOfHolds (c : Conditions) (value : Value) : Attempt Bool :=
  match c.oneOf with
  | none => pure true
  | some container =>
    match container.contains value with
    | .ok answer => pure answer
    | .error fault => if fault.kind = "TypeError" then pure false else throw fault

/-- Whether a value is a text with the pattern in it. -/
def patternHolds (c : Conditions) (value : Value) : Attempt Bool :=
  if c.pattern.isNull then pure true
  else match value.text? with
    | none => pure false
    | some s => findsPattern c.pattern s

/-- Whether a value is a number within the bounds. -/
def boundsHold (c : Conditions) (value : Value) : Attempt Bool := do
  if c.min.isNull && c.max.isNull then return true
  if !value.isNumber then return false
  if !c.min.isNull then
    if ← value.compareWith .less c.min then return false
  if !c.max.isNull then
    if ← value.compareWith .greater c.max then return false
  return true

/-- Whether every check holds for a value; the checks are tried in order up to the first that does
not. -/
def holdFor (c : Conditions) (value : Value) : Attempt Bool := do
  if !(← c.equalsHolds value) then return false
  if !(← c.oneOfHolds value) then return false
  if !(← c.patternHolds value) then return false
  c.boundsHold value

/-- Whether the checks hold for the value of a field. -/
def holdIn (c : Conditions) (field : Value) (data : Entries) : Attempt Bool := do
  field.checkKey
  c.holdFor (data.peek field)

end Conditions

/-! ## Activation -/

namespace Rule

/-- The branch that a conditional rule takes: the consequent if the conditions hold, else the
alternative, else the base. -/
def branch (holds : Bool) (consequent : Rule) (otherwise base : Option Rule) : Option Rule :=
  if holds then some consequent else otherwise.or base

/-- The branch that a rule takes and whether a value is required then.  A rule that is not conditional
has no branches to choose from. -/
def select (field : Value) (conditions : Conditions) (consequent : Rule)
    (otherwise base : Option Rule) (required : Value) (data : Entries) :
    Attempt (Option Rule × Value) := do
  let holds ← conditions.holdIn field data
  match branch holds consequent otherwise base with
  | none => return (none, required)
  | some r => return (some r, r.common.required)

mutual

/-- The rule that is active for a record, and whether a value is required then.  There may be no active
rule; the innermost conditional rule decides what is required in that case. -/
def activate (data : Entries) : Rule → Attempt (Option Rule × Value)
  | conditional common field conditions consequent otherwise base => do
    if ← conditions.holdIn field data then activate data consequent
    else activateOr data (activateOr data (pure (none, common.required)) base) otherwise
  | r => pure (some r, r.common.required)

/-- The rule that is active in a branch, or what applies if there is no such branch. -/
def activateOr (data : Entries) (absent : Attempt (Option Rule × Value)) :
    Option Rule → Attempt (Option Rule × Value)
  | none => absent
  | some r => activate data r

end

end Rule

end RecordCheck
