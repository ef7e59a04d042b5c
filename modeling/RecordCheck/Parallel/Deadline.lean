import RecordCheck.Duration
import RecordCheck.Hook

/-!
# Deadlines

A hook is called under a limit of time.  A call that would take as long as the limit or longer is cut
off when the limit is reached; a limit that is over when the call begins cuts it off at its first pause.
A call without pauses is never cut off.  How long others must be waited for before the call begins does
not count.

A call that is cut off ends there if it lets the cancellation through.  If it answers the cancellation, it
is cut off no more and ends as it likes, but to fail with a timeout then is to be cut off.

Time passes in pauses only, so that the limit is noticed when it is reached.  An event loop that others keep
busy notices it late, and a call that keeps the loop busy itself may be over by then; neither is
modelled.
-/

set_option autoImplicit false

namespace RecordCheck.Parallel

/-- Whether a number of milliseconds reaches a limit.  Every number reaches a limit that is not a number,
which is taken to be over at once; when an event loop would get to such a timer depends on the other ones. -/
def reaches (ms : Rat) : Duration → Bool
  | .finite limit => limit ≤ ms
  | .infinite negative => negative
  | .undefined => true

/-- Whether a call is cut off by a limit. -/
def isCutOff (call : Call) (limit : Duration) : Bool :=
  !call.pauses.isEmpty && (limit.isOver || reaches call.duration limit)

/-- The number of pauses that are over before a number of milliseconds is reached. -/
def pausesBefore (ms : Rat) : List Pause → Nat
  | [] => 0
  | p :: rest => if ms ≤ p.duration then 0 else pausesBefore (ms - p.duration) rest + 1

/-- What a call does that is cut off by a limit. -/
def reactionUnder (call : Call) : Duration → Reaction
  | .finite ms => call.reaction (pausesBefore ms call.pauses)
  | _ => call.reaction 0

/-- Whether a call ends by failing with a timeout of its own. -/
def failsWithTimeout : Attempt Value → Bool
  | .ok _ => false
  | .error fault => fault.kind == "TimeoutError"

/-- How a call ends under a limit, unless it is cut off and lets the cancellation through. -/
def endingUnder (call : Call) (limit : Duration) : Option (Attempt Value) :=
  if isCutOff call limit then
    match reactionUnder call limit with
    | .letThrough => none
    | .answer _ ending => if failsWithTimeout ending then none else some ending
  else some call.ending

/-- The pauses of a call up to a number of milliseconds, the last of them shortened. -/
def cutAt (ms : Rat) : List Pause → List Pause
  | [] => []
  | p :: rest => if ms ≤ p.duration then [.sleep ms] else p :: cutAt (ms - p.duration) rest

/-- What is left of the first pause of a call that is cut off as it begins. -/
def cutAtOnce : List Pause → List Pause
  | [] => []
  | p :: _ => if p.duration ≤ 0 then [.yield] else [.yield, .yield]

/-- The pauses of a call up to where a limit cuts it off. -/
def pausesUntil (call : Call) (limit : Duration) : List Pause :=
  match limit with
  | .finite ms => if limit.isOver then cutAtOnce call.pauses else cutAt ms call.pauses
  | _ => cutAtOnce call.pauses

/-- The pauses that a call makes under a limit. -/
def pausesUnder (call : Call) (limit : Duration) : List Pause :=
  if isCutOff call limit then pausesUntil call limit ++ (reactionUnder call limit).pauses
  else call.pauses

end RecordCheck.Parallel
