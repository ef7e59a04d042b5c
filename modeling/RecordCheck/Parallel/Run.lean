import RecordCheck.Parallel.Planning
import RecordCheck.Parallel.Trace
import RecordCheck.Value.Integer

/-!
# Validating in parallel

A record is validated in parallel by planning it and running the plan with a number of slots.  The
number is given by a value; one that is no whole number never runs out.
-/

set_option autoImplicit false

namespace RecordCheck.Parallel

/-- The result of a validation in parallel, and its trace.  There is no result if it waits for a slot
for ever. -/
structure Run where
  result : Option (Attempt Outcome)
  trace : Trace

/-- The number of slots that a value gives. -/
def slotsOf (v : Value) : Attempt (Option Nat) := do
  if ← v.compareWith .less (.int 0) then refuse .negativeSlots
  match v.toInteger with
  | .ok n => return if ← v.same (.int n) then some n.toNat else none
  | .error _ => return none

/-- Run a plan with a number of slots, enough for all of its units if none is given. -/
def runPlan (slots : Option Nat) (plan : Plan) : Run :=
  let t := Timeline.ofPlan (slots.getD plan.units) plan
  ⟨t.state.result?, t.trace⟩

/-- Validate a record against a schema in parallel. -/
def validate (registry : Custom.Registry) (slots : Option Nat) (timeout : Value) (context : Context)
    (schema : Schema) (value : Value) : Run :=
  runPlan slots (planRecord registry timeout context schema value)

end RecordCheck.Parallel
