import RecordCheck.Hook
import RecordCheck.Outcome

/-!
# Plans of units

A unit is a part of a validation that proceeds on its own: a field of a record or an element of an
array.  Its plan says what it does: it stays in slots, of which there are only so many for all units
together, and it forks into units for its own parts and waits for them.  It holds no slot while it
waits.  What a unit comes to is an outcome or a fault.
-/

set_option autoImplicit false

namespace RecordCheck.Parallel

/-- A call of a hook: the value and the context that it is called with, and how it ends, unless it is cut
off and lets that happen. -/
structure HookCall where
  argument : Value
  context : Context
  ending : Option (Attempt Value)

/-- A stay in a slot: the call of a hook, unless none is called, and the pauses that it makes. -/
structure Stay where
  call : Option HookCall
  pauses : List Pause

/-- A stay for work without pauses, such as validation without hooks.  It takes no time, however much there is
to do, because time passes in pauses only. -/
def Stay.brief : Stay := ⟨none, []⟩

/-- Work without parts: stays in slots, one after the other, and what it comes to. -/
structure Work where
  stays : List Stay
  result : Attempt Outcome

/-- What a unit does. -/
inductive Plan where
  | ends (result : Attempt Outcome)
  | stay (stay : Stay) (next : Plan)
  | fork (children : List Plan) (join : List Outcome → Work) (recover : Fault → Attempt Outcome)

instance : Inhabited Plan := ⟨.fork [] (fun _ => ⟨[], pure (.accept .null)⟩) .error⟩

/-- Work without stays. -/
def Work.only (result : Attempt Outcome) : Work := ⟨[], result⟩

/-- Work as a plan. -/
def Work.plan (w : Work) : Plan := w.stays.foldr .stay (.ends w.result)

namespace Plan

mutual

/-- The number of forks in a plan. -/
def forks : Plan → Nat
  | ends _ => 0
  | stay _ next => next.forks
  | fork children _ _ => forksIn children + 1

/-- The number of forks in plans. -/
def forksIn : List Plan → Nat
  | [] => 0
  | p :: rest => p.forks + forksIn rest

end

mutual

/-- The number of units in a plan. -/
def units : Plan → Nat
  | ends _ => 1
  | stay _ next => next.units
  | fork children _ _ => unitsIn children + 1

/-- The number of units in plans. -/
def unitsIn : List Plan → Nat
  | [] => 0
  | p :: rest => p.units + unitsIn rest

end

mutual

/-- A bound for the number of steps that a plan takes up to its joins. -/
def weight : Plan → Nat
  | ends _ => 8
  | stay s next => 3 * s.pauses.length + 8 + next.weight
  | fork children _ _ => weightIn children + 16

/-- A bound for the number of steps that plans take up to their joins. -/
def weightIn : List Plan → Nat
  | [] => 0
  | p :: rest => p.weight + weightIn rest

end

end Plan

end RecordCheck.Parallel
