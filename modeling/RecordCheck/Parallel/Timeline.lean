import RecordCheck.Parallel.Task

/-!
# The timeline of a validation

Units take turns in a fixed order, on a clock that advances only when nobody has anything to do.  An
agenda lists what is to happen next, first come, first served: a unit goes on, a sleep is over, or a unit
learns that one of its parts has ended.  Slots are handed over in the order in which units got in line,
and a unit takes a free slot at once only if nobody stands in line.  A call of a hook that is cancelled
because a sibling has failed ends at once.
-/

set_option autoImplicit false

namespace RecordCheck.Parallel

/-- Something that is to happen: a unit goes on, the sleep of a unit is over, or a unit learns that a part
of it has ended, while it waits for its parts for the first time or, after one of them has failed, for
the second. -/
inductive Event where
  | goOn (unit : Path)
  | wake (unit : Path)
  | ended (unit : Path) (part : Nat) (again : Bool)
  deriving DecidableEq, Repr

/-- A unit that waits for its parts: whether for the second time, how many it has not heard of, the part
that ended its waiting by failing, and whether its waiting is over. -/
structure Gathering where
  unit : Path
  again : Bool
  missing : Nat
  failed : Option Nat
  isOver : Bool

/-- A call of a hook that was made: where, and from when until when. -/
structure CallRecord where
  unit : Path
  call : HookCall
  start : Rat
  stop : Option Rat

/-- A validation under way with its agenda, the units that stand in line for a slot, those that sleep and
until when, those that wait for their parts, the time, and the calls of hooks so far. -/
structure Timeline where
  state : State
  agenda : List Event
  line : List Path
  sleepers : List (Rat × Path)
  gatherings : List Gathering
  now : Rat
  calls : List CallRecord

namespace Timeline

/-- The timeline of a validation that has not begun. -/
def start (slots : Nat) (plan : Plan) : Timeline :=
  ⟨.start slots plan, [.goOn []], [], [], [], 0, []⟩

/-! ## The agenda -/

/-- With something to happen after all that is on the agenda. -/
def later (t : Timeline) (e : Event) : Timeline := { t with agenda := t.agenda ++ [e] }

/-- With a unit going on before anything else happens. -/
def atOnce (t : Timeline) (unit : Path) : Timeline := { t with agenda := .goOn unit :: t.agenda }

/-- After a move, if it can be made. -/
def moved (t : Timeline) (unit : Path) (m : Move) : Timeline :=
  match t.state.step unit m with
  | some state => { t with state }
  | none => t

/-- The unit at a path. -/
def unitAt (t : Timeline) (unit : Path) : Option Task := t.state.root.at? unit

/-- Sleepers with another one, in the order of time. -/
def insertSleeper (time : Rat) (unit : Path) : List (Rat × Path) → List (Rat × Path)
  | [] => [(time, unit)]
  | s :: rest =>
    if time < s.1 then (time, unit) :: s :: rest else s :: insertSleeper time unit rest

/-! ## Slots -/

/-- Whether a unit stands in line without a slot handed to it. -/
def isQueued (t : Timeline) (unit : Path) : Bool :=
  match t.unitAt unit with
  | some (.queued ..) => true
  | _ => false

/-- After a free slot, if there is one, has been handed to the first in line. -/
def handOver (t : Timeline) : Timeline :=
  if t.state.free = 0 then t
  else match t.line.find? t.isQueued with
    | some unit => (t.moved unit .grant).later (.goOn unit)
    | none => t

/-- After the calls of a unit have come to their end. -/
def stopCalls (t : Timeline) (unit : Path) : Timeline :=
  let stopped (c : CallRecord) : CallRecord :=
    if c.unit = unit ∧ c.stop.isNone then { c with stop := some t.now } else c
  { t with calls := t.calls.map stopped }

/-- After a unit has given its slot back. -/
def giveBack (t : Timeline) (unit : Path) : Timeline :=
  ((t.stopCalls unit).moved unit .release).handOver

/-- After a unit has left the line. -/
def leaveLine (t : Timeline) (unit : Path) : Timeline :=
  { t with line := t.line.filter (· != unit) }

/-- After a unit in a slot has taken up its next pause, or given the slot back if there is none. -/
def continueStay (t : Timeline) (unit : Path) : List Pause → Timeline
  | [] => (t.giveBack unit).atOnce unit
  | p :: _ =>
    if p.duration ≤ 0 then t.later (.goOn unit)
    else { t with sleepers := insertSleeper (t.now + p.duration) unit t.sleepers }

/-- After a unit has entered the slot that was handed to it. -/
def enter (t : Timeline) (unit : Path) (stay : Stay) : Timeline :=
  let t := ((t.leaveLine unit).handOver).moved unit .enter
  let calls := match stay.call with
    | some call => t.calls ++ [⟨unit, call, t.now, none⟩]
    | none => t.calls
  continueStay { t with calls } unit stay.pauses

/-! ## Parts -/

/-- The gathering of a unit. -/
def gatheringOf (t : Timeline) (unit : Path) : Option Gathering :=
  t.gatherings.find? fun g => g.unit == unit

/-- With a gathering in the place of the one of the same unit. -/
def setGathering (t : Timeline) (g : Gathering) : Timeline :=
  { t with gatherings := g :: t.gatherings.filter fun h => h.unit != g.unit }

/-- With the unit that a unit is part of learning that it has ended. -/
def announce (t : Timeline) (unit : Path) : Timeline :=
  match unit.getLast? with
  | none => t
  | some part =>
    let parent := unit.dropLast
    match t.gatheringOf parent with
    | some g => t.later (.ended parent part g.again)
    | none => t

/-- After a unit has started its parts. -/
def startParts (t : Timeline) (unit : Path) (count : Nat) : Timeline :=
  if count = 0 then (t.moved unit .merge).atOnce unit
  else
    let t := t.setGathering ⟨unit, false, count, none, false⟩
    (List.range count).foldl (fun t i => t.later (.goOn (unit ++ [i]))) t

/-- After a unit has begun to wait for its parts again. -/
def gatherAgain (t : Timeline) (unit : Path) (parts : List Task) : Timeline :=
  let t := t.setGathering ⟨unit, true, parts.length, none, false⟩
  let ended := (List.range parts.length).filter fun i => (parts[i]?.map Task.isEnded).getD false
  ended.foldl (fun t i => t.later (.ended unit i true)) t

/-- The waiting of a unit is over. -/
def gathered (t : Timeline) (g : Gathering) : Timeline :=
  (t.setGathering { g with isOver := true }).later (.goOn g.unit)

/-- After a unit has learnt that a part has ended. -/
def hear (t : Timeline) (g : Gathering) (part : Nat) : Timeline :=
  let failed := match t.unitAt (g.unit ++ [part]) with
    | some (.finished (.ok _)) => false
    | _ => true
  if failed && !g.again then t.gathered { g with failed := some part }
  else if g.missing ≤ 1 then t.gathered { g with missing := 0 }
  else t.setGathering { g with missing := g.missing - 1 }

mutual

/-- The units in a unit at a path that a cancellation interrupts: those that stand in line or are in a
slot. -/
def interrupted (unit : Path) : Task → List Path
  | .queued .. | .holding .. => [unit]
  | .joining ps _ _ | .unwinding _ ps _ | .halting ps => interruptedIn unit 0 ps
  | _ => []

/-- The units in parts of a unit, from one on, that a cancellation interrupts. -/
def interruptedIn (unit : Path) (first : Nat) : List Task → List Path
  | [] => []
  | t :: rest => interrupted (unit ++ [first]) t ++ interruptedIn unit (first + 1) rest

end

/-- Whether a unit sleeps. -/
def isAsleep (t : Timeline) (unit : Path) : Bool :=
  t.sleepers.any (fun s => s.2 == unit) || t.agenda.contains (.wake unit)

/-- After a unit has been interrupted: it is woken up or leaves the line, and goes on. -/
def interrupt (t : Timeline) (unit : Path) : Timeline :=
  if t.isQueued unit then (t.leaveLine unit).later (.goOn unit)
  else if t.isAsleep unit then
    { t with
      sleepers := t.sleepers.filter fun s => s.2 != unit
      agenda := t.agenda.filter (· != .wake unit) ++ [.goOn unit] }
  else t

/-- After a unit has cancelled its parts because one of them failed. -/
def abort (t : Timeline) (unit : Path) (parts : List Task) (failed : Nat) : Timeline :=
  let t := (interruptedIn unit 0 parts).foldl interrupt t
  gatherAgain (t.moved unit (.abort failed)) unit (Task.cancelAll parts)

/-! ## Events -/

/-- After a unit has ended. -/
def conclude (t : Timeline) (unit : Path) (m : Move) : Timeline := (t.moved unit m).announce unit

/-- After a unit has taken up the next part of its plan. -/
def beginPlan (t : Timeline) (unit : Path) : Plan → Timeline
  | .ends _ => t.conclude unit .begin
  | .stay _ _ =>
    let isFree := t.line.isEmpty && t.state.free != 0
    let t := t.moved unit .begin
    if isFree then (t.moved unit .grant).atOnce unit else { t with line := t.line ++ [unit] }
  | .fork children _ _ => (t.moved unit .begin).startParts unit children.length

/-- After a cancelled unit has given back its slot, if it has one, and ended. -/
def depart (t : Timeline) (unit : Path) (holds : Bool) : Timeline :=
  let t := t.leaveLine unit
  (if holds then t.giveBack unit else t).conclude unit .leave

/-- After a unit has gone on. -/
def goOn (t : Timeline) (unit : Path) : Timeline :=
  match t.unitAt unit, t.gatheringOf unit with
  | some (.ready plan), _ => t.beginPlan unit plan
  | some (.granted stay _), _ => t.enter unit stay
  | some (.holding pauses _), _ => (t.moved unit .pass).continueStay unit (pauses.drop 1)
  | some (.leaving holds), _ => t.depart unit holds
  | some (.joining parts _ _), some ⟨_, _, _, some failed, _⟩ => t.abort unit parts failed
  | some (.joining ..), some ⟨_, _, _, none, _⟩ => (t.moved unit .merge).atOnce unit
  | some (.unwinding ..), _ => t.conclude unit .settle
  | some (.halting parts), some ⟨_, false, _, _, _⟩ => t.gatherAgain unit parts
  | some (.halting _), _ => t.conclude unit .halt
  | _, _ => t

/-- After something has happened. -/
def happen (t : Timeline) (e : Event) : Timeline :=
  match e with
  | .goOn unit => t.goOn unit
  | .wake unit => t.later (.goOn unit)
  | .ended unit part again =>
    match t.gatheringOf unit with
    | some g => if g.again = again ∧ !g.isOver then t.hear g part else t
    | none => t

/-- After the clock has advanced to the time of the first sleeper, with all who sleep until then about
to wake up. -/
def advanceClock (t : Timeline) : Option Timeline :=
  match t.sleepers with
  | [] => none
  | (time, _) :: _ =>
    let due := t.sleepers.takeWhile fun s => s.1 ≤ time
    some { t with
      now := time
      sleepers := t.sleepers.drop due.length
      agenda := due.map fun s => .wake s.2 }

/-- The timeline one event later, if there is anything to happen. -/
def next (t : Timeline) : Option Timeline :=
  match t.agenda with
  | e :: rest => some (happen { t with agenda := rest } e)
  | [] => t.advanceClock

/-- The timeline after a number of events, or when the outermost unit has ended. -/
def after : (steps : Nat) → Timeline → Timeline
  | 0, t => t
  | n + 1, t =>
    if t.state.root.isEnded then t
    else match t.next with
      | some t => after n t
      | none => t

/-! ## Running -/

mutual

/-- A bound for the number of steps that a unit takes up to its joins. -/
def weight : Task → Nat
  | .ready plan => plan.weight + 8
  | .queued s plan | .granted s plan => 3 * s.pauses.length + 8 + plan.weight
  | .holding pauses plan => 3 * pauses.length + 8 + plan.weight
  | .joining ps _ _ | .unwinding _ ps _ | .halting ps => weightIn ps + 16
  | .leaving _ => 8
  | .finished _ | .stopped => 8

/-- A bound for the number of steps that units take up to their joins. -/
def weightIn : List Task → Nat
  | [] => 0
  | t :: rest => weight t + weightIn rest

end

/-- The timeline until the outermost unit has ended, or nothing is left to happen.  In every round
more than the number of steps up to the next join are taken, and there are only so many joins. -/
def run : (joins : Nat) → Timeline → Timeline
  | 0, t => t.after (weight t.state.root + t.agenda.length)
  | n + 1, t => run n (t.after (weight t.state.root + t.agenda.length))

/-- The timeline of a plan with a number of slots, from its beginning to its end. -/
def ofPlan (slots : Nat) (plan : Plan) : Timeline := run (plan.forks + 1) (start slots plan)

end Timeline

end RecordCheck.Parallel
