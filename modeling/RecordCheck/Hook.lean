import RecordCheck.Fault

/-!
# Hooks

A hook is a check that takes time: it is called with a value and the context of the validation, may
pause, and at last returns something or fails.  What one call does is settled when it begins.

Time passes in pauses only.  What is done between them takes none, so that a call takes as long as its
sleeps together and nobody holds up the others; a hook that keeps the event loop busy instead of sleeping
has no model here.
-/

set_option autoImplicit false

namespace RecordCheck

/-- What every field and element of one validation shares: the record being validated with its defaults,
whether values may be converted, and options for custom validators and hooks. -/
structure Context where
  data : Entries
  convert : Bool
  options : Entries

/-- The context for a nested record. -/
def Context.forData (context : Context) (data : Entries) : Context := { context with data }

/-- A pause of a call: it lets others proceed, or sleeps for some milliseconds. -/
inductive Pause where
  | yield
  | sleep (ms : Rat)

/-- The milliseconds that a pause takes. -/
def Pause.duration : Pause → Rat
  | .yield => 0
  | .sleep ms => if ms ≤ 0 then 0 else ms

/-- What a call does when it is cut off in a pause: it lets the cancellation through, or it answers it, and
then makes pauses of its own and ends in its own way. -/
inductive Reaction where
  | letThrough
  | answer (pauses : List Pause) (ending : Attempt Value)

/-- The pauses that a call makes once it has been cut off. -/
def Reaction.pauses : Reaction → List Pause
  | .letThrough => []
  | .answer pauses _ => pauses

/-- One call of a hook: its pauses, how it ends if it is left alone, and what it does when it is cut off, given
the number of pauses that it has made by then. -/
structure Call where
  pauses : List Pause
  ending : Attempt Value
  reaction : Nat → Reaction

/-- A call that lets a cancellation through. -/
def Call.interruptible (pauses : List Pause) (ending : Attempt Value) : Call :=
  ⟨pauses, ending, fun _ => .letThrough⟩

/-- The milliseconds that a call takes if it is left alone. -/
def Call.duration (c : Call) : Rat := c.pauses.foldl (fun time pause => time + pause.duration) 0

/-- A check that takes time. -/
abbrev Hook := Value → Context → Call

end RecordCheck
