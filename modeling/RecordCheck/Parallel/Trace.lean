import RecordCheck.Number.Rounding
import RecordCheck.Parallel.Timeline

/-!
# Traces

The trace of a validation tells with what its hooks were called, how many calls ran at one moment at
most, and how long all of it took.
-/

set_option autoImplicit false

namespace RecordCheck.Parallel

/-- What a validation did: the values that hooks were called with, the greatest number of calls that ran
at one moment, and the time that it took in milliseconds. -/
structure Trace where
  calls : List Value
  peak : Nat
  elapsed : Nat

/-- The trace of a validation that calls no hook. -/
def Trace.empty : Trace := ⟨[], 0, 0⟩

/-- Whether a call runs at a time.  It does from its start on until just before its end. -/
def CallRecord.runsAt (c : CallRecord) (time : Rat) : Bool :=
  c.start ≤ time && c.stop.all fun stop => time < stop

/-- The greatest number of calls that run at one moment, which is the start of a call. -/
def peakOf (calls : List CallRecord) : Nat :=
  (calls.map fun c => (calls.filter (·.runsAt c.start)).length).foldl max 0

/-- The whole number of milliseconds nearest to a time. -/
def roundTime (time : Rat) : Nat := Number.roundHalfEven time.num.toNat time.den

/-- The trace of a timeline. -/
def Timeline.trace (t : Timeline) : Trace :=
  ⟨t.calls.map (·.call.argument), peakOf t.calls, roundTime t.now⟩

end RecordCheck.Parallel
