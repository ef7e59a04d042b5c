import RecordCheck.Parallel.Plan

/-!
# Units at work

A unit that has been started moves from state to state: it stands in line for a slot, holds one, waits
for its parts, and comes to an end.  When a part fails with a fault, its siblings are cancelled, and the
unit ends only when all of its parts have.  Any unit that can make a move may be the next to make one;
a schedule is the list of moves that were made.
-/

set_option autoImplicit false

namespace RecordCheck.Parallel

/-- A unit that has been started, with its parts.

* `ready`: it may go on with its plan;
* `queued`: it stands in line for a slot;
* `granted`: a slot was handed to it, which it has not entered yet;
* `holding`: it is in a slot and has pauses left to make;
* `joining`: it waits for its parts;
* `unwinding`: a part failed, and it waits for the others to end;
* `leaving`: it was cancelled and has not ended, and may still have a slot, as long as a hook takes that answers
  the cancellation; nobody looks at what the hook comes to;
* `halting`: it was cancelled and waits for its parts to end;
* `finished`: it came to a result;
* `stopped`: it was cancelled and has ended. -/
inductive Task where
  | ready (plan : Plan)
  | queued (stay : Stay) (next : Plan)
  | granted (stay : Stay) (next : Plan)
  | holding (pauses : List Pause) (next : Plan)
  | joining (parts : List Task) (join : List Outcome → Work) (recover : Fault → Attempt Outcome)
  | unwinding (cause : Fault) (parts : List Task) (recover : Fault → Attempt Outcome)
  | leaving (holds : Bool)
  | halting (parts : List Task)
  | finished (result : Attempt Outcome)
  | stopped

instance : Inhabited Task := ⟨.stopped⟩

/-- A move of a unit.

* `begin`: it takes up the next part of its plan;
* `grant`: the slot that it stands in line for is handed to it;
* `enter`: it enters the slot;
* `pass`: a pause is over;
* `release`: it gives its slot back;
* `merge`: all its parts have come to outcomes, which it joins;
* `abort`: a part has failed, and it cancels the others;
* `settle`: all its parts have ended after one failed;
* `leave`: it ends because it was cancelled;
* `halt`: it ends, cancelled, because all its parts have. -/
inductive Move where
  | begin
  | grant
  | enter
  | pass
  | release
  | merge
  | abort (part : Nat)
  | settle
  | leave
  | halt
  deriving DecidableEq, Repr

namespace Task

/-- Whether a unit has ended. -/
def isEnded : Task → Bool
  | finished _ | stopped => true
  | _ => false

/-- The parts of a unit. -/
def parts : Task → List Task
  | joining ps _ _ | unwinding _ ps _ | halting ps => ps
  | _ => []

/-- The result of a unit that came to one. -/
def result? : Task → Option (Attempt Outcome)
  | finished result => some result
  | _ => none

/-- The outcome of a unit that came to one. -/
def outcome? (t : Task) : Option Outcome :=
  match t with
  | finished (.ok outcome) => some outcome
  | _ => none

/-- The fault of a unit that failed. -/
def fault? (t : Task) : Option Fault :=
  match t with
  | finished (.error fault) => some fault
  | _ => none

mutual

/-- A unit after it has been told to end; one that has ended stays as it is. -/
def cancel : Task → Task
  | ready _ | queued .. => leaving false
  | granted .. | holding .. => leaving true
  | joining ps _ _ | unwinding _ ps _ | halting ps => halting (cancelAll ps)
  | leaving holds => leaving holds
  | finished result => finished result
  | stopped => stopped

/-- Units after they have been told to end. -/
def cancelAll : List Task → List Task
  | [] => []
  | t :: rest => t.cancel :: cancelAll rest

end

/-- A unit as it begins to go on with its plan. -/
def begin : Plan → Task
  | .ends result => finished result
  | .stay s next => queued s next
  | .fork children join recover => joining (children.map ready) join recover

/-- A unit after a move, if it can make it. -/
def step (m : Move) (t : Task) : Option Task :=
  match m, t with
  | .begin, ready plan => some (begin plan)
  | .grant, queued s next => some (granted s next)
  | .enter, granted s next => some (holding s.pauses next)
  | .pass, holding (_ :: rest) next => some (holding rest next)
  | .release, holding [] next => some (ready next)
  | .release, leaving true => some (leaving false)
  | .merge, joining ps join _ => (ps.mapM outcome?).map fun outcomes => ready (join outcomes).plan
  | .abort i, joining ps _ recover =>
    (ps[i]?.bind fault?).map fun cause => unwinding cause (cancelAll ps) recover
  | .settle, unwinding cause ps recover =>
    if ps.all isEnded then some (finished (recover cause)) else none
  | .leave, leaving false => some stopped
  | .halt, halting ps => if ps.all isEnded then some stopped else none
  | _, _ => none

end Task

/-- Where a unit is: the part to take at every level, from the outermost unit on. -/
abbrev Path := List Nat

namespace Task

/-- A list with one member changed, if it can be. -/
def changeAt {α : Type} (change : α → Option α) : Nat → List α → Option (List α)
  | _, [] => none
  | 0, a :: rest => (change a).map (· :: rest)
  | n + 1, a :: rest => (changeAt change n rest).map (a :: ·)

/-- A unit with its parts changed, if it has parts and they can be. -/
def changeParts (change : List Task → Option (List Task)) : Task → Option Task
  | joining ps join recover => (change ps).map fun ps => joining ps join recover
  | unwinding cause ps recover => (change ps).map fun ps => unwinding cause ps recover
  | halting ps => (change ps).map halting
  | _ => none

/-- A unit after a move of the unit at a path in it, if that can make it. -/
def stepAt (m : Move) : Path → Task → Option Task
  | [], t => t.step m
  | i :: path, t => t.changeParts (changeAt (stepAt m path) i)

/-- The unit at a path. -/
def at? : Path → Task → Option Task
  | [], t => some t
  | i :: path, t => t.parts[i]?.bind (at? path)

end Task

/-! ## States and schedules -/

/-- A validation under way: the free slots and the outermost unit. -/
structure State where
  free : Nat
  root : Task

/-- The number of free slots after a move; a slot can only be granted if one is free. -/
def Move.slotsAfter (m : Move) (free : Nat) : Option Nat :=
  match m, free with
  | .grant, 0 => none
  | .grant, n + 1 => some n
  | .release, n => some (n + 1)
  | _, n => some n

namespace State

/-- A validation before its first move. -/
def start (slots : Nat) (plan : Plan) : State := ⟨slots, .ready plan⟩

/-- A validation after a move of one of its units, if that can make it. -/
def step (s : State) (path : Path) (m : Move) : Option State := do
  let free ← m.slotsAfter s.free
  let root ← s.root.stepAt m path
  return ⟨free, root⟩

/-- A validation after a schedule, if every move in it can be made. -/
def follow (s : State) (schedule : List (Path × Move)) : Option State :=
  schedule.foldlM (fun s move => s.step move.1 move.2) s

/-- The result of a validation that has come to one. -/
def result? (s : State) : Option (Attempt Outcome) := s.root.result?

end State

end RecordCheck.Parallel
