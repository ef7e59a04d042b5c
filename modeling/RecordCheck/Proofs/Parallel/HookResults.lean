import Mathlib.Algebra.Order.Ring.Rat
import RecordCheck.Proofs.Custom.Answers
import RecordCheck.Proofs.Parallel.HookCalls
import RecordCheck.Proofs.Parallel.Places

/-!
# What comes of the calls of hooks

A call of a hook that takes longer than its timeout is cut off where it pauses.  If it lets that happen, the
value is rejected with the timeout as the only detail.  A call that ends by itself and fails rejects the value
with the reason, and one that ends by itself and answers makes of the value what the answer stands for: one
that takes less than its timeout, one that never pauses, or one that answers its cancellation.  How long the
unit stood in line, who else is under way and in which order moves are made do not enter into it.  Nobody else
is affected, unless the hook fails with a fault that aborts, or answers with something that stands for no
outcome at all.

All this is said of runs in which time passes in pauses only, so that nobody keeps the event loop from getting
to a limit in time.
-/

set_option autoImplicit false

namespace RecordCheck

/-! ## Timeouts -/

namespace Duration

end Duration

/-! ## Calls and limits -/

namespace Parallel

section

variable {call : Call} {limit : Duration} {ending : Attempt Value}

end

/-! ## Results -/

/-- The only error of a value in the place of a fault. -/
def faultEntry (fault : Fault) : Entry :=
  ⟨.text "async_error", .text ("async validation failed: " ++ fault.reason),
    [(.text "reason", .text fault.reason), (.text "exception", .text fault.kind)]⟩

/-- The report of an error with the message of its code. -/
theorem rejectFor_of_fill {value : Value} {code : Code} {details : Entries} {message : String}
    (h : code.template.fill details = .ok message) :
    Outcome.rejectFor value code details =
      .ok (.reject value [⟨.text code.name, .text message, details⟩]) := by
  rw [Outcome.rejectFor, Entry.ofCode, h]
  rfl

/-- What is reported in the place of a fault that does not abort. -/
theorem guarded_error {value : Value} {fault : Fault} (h : fault.isAborting = false) :
    guarded value (.error fault) = .ok (.reject value [faultEntry fault]) := by
  rw [guarded, h, if_neg Bool.false_ne_true]
  refine rejectFor_of_fill ?_
  have htext : (Value.text fault.reason).textOf = .ok fault.reason := by
    rw [Value.textOf, Value.textChars, pure_bind, String.ofList_toList]
    rfl
  have hdetail : Entries.get? [(Value.text "reason", .text fault.reason),
      (.text "exception", .text fault.kind)] (.text "reason") = some (.text fault.reason) := rfl
  rw [Template.fill, Code.template]
  dsimp only
  rw [hdetail]
  dsimp only
  rw [htext, Attempt.ok_bind, String.append_empty]
  rfl

/-- A fault that is left over aborts. -/
theorem guarded_eq_error_iff {value : Value} {result : Attempt Outcome} {fault : Fault} :
    guarded value result = .error fault ↔ result = .error fault ∧ fault.isAborting = true := by
  rcases result with cause | o
  · cases habort : cause.isAborting with
    | true =>
      rw [guarded, habort, if_pos rfl]
      constructor
      · rintro ⟨⟩
        exact ⟨rfl, habort⟩
      · rintro ⟨⟨⟩, -⟩
        rfl
    | false =>
      rw [guarded_error habort]
      constructor
      · rintro ⟨⟩
      · rintro ⟨⟨⟩, hfault⟩
        rw [habort] at hfault
        cases hfault
  · constructor
    · rintro ⟨⟩
    · rintro ⟨⟨⟩, -⟩

/-- What comes of the call of a hook, given how it ends under its limit. -/
theorem resultOfHook_eq {hook : Hook} {common : Common} {typeName : String} {standard : Value}
    {context : Context} {value found : Value} {limit : Duration}
    (hlimit : Duration.ofValue (timeoutOf common standard) = .ok limit) :
    resultOfHook hook common typeName standard context value found =
      guarded value (resultOfCall typeName (timeoutOf common standard) found
        (endingUnder (hook found context) limit)) := by
  rw [resultOfHook, callHook, hlimit]

/-! ## Units and their hooks -/

section

variable {registry : Custom.Registry} {standard : Value} {context : Context} {schema : Schema}
  {value : Value} {slots : Nat} {s : State} {schedule : List (Path × Move)} {unit : Path}
  {call : HookCall}

/-- A call in a run is the call of the hook at the position of the unit that makes it. -/
theorem mem_calls_of_mem_callsOf
    (h : (State.start slots (planRecord registry standard context schema value)).follow schedule = some s)
    (hcall : call ∈ (State.start slots (planRecord registry standard context schema value)).callsOf unit
      schedule) :
    (∃ visit, SchemaReaches context schema value unit visit) ∧
      ∀ visit, SchemaReaches context schema value unit visit → call ∈ visit.calls registry standard := by
  obtain ⟨c, hconducts, hmatches⟩ := planRecord_conducts registry standard context schema value
  obtain ⟨_, -, hcalls⟩ := State.conducts_follow h hconducts
  have hmem : call ∈ c.calls unit := (hcalls unit).1.subset hcall
  constructor
  · by_contra hnone
    rw [hmatches.uncalled unit fun visit hvisit => hnone ⟨visit, hvisit⟩] at hmem
    cases hmem
  · intro visit hvisit
    rw [hmatches.called unit visit hvisit] at hmem
    exact hmem

/-- There are positions only where a value is not blank. -/
theorem Reaches.isBlank_value {rule : Rule} {path : Path} {visit : Visit}
    (h : Reaches context rule value path visit) : visit.value.isBlank = false := by
  induction h with
  | here _ present => exact present
  | field _ _ _ _ ih => exact ih
  | item _ _ _ _ _ ih => exact ih

theorem SchemaReaches.isBlank_value {visit : Visit} (h : SchemaReaches context schema value unit visit) :
    visit.value.isBlank = false := by
  cases h with
  | field _ _ inside => exact inside.isBlank_value

/-- The call of its hook decides what a unit comes to. -/
theorem yields_resultOfHook (hslots : 1 ≤ slots)
    (h : (State.start slots (planRecord registry standard context schema value)).follow schedule = some s)
    (hcall : call ∈ (State.start slots (planRecord registry standard context schema value)).callsOf unit
      schedule)
    {visit : Visit} {hook : Hook} (hvisit : SchemaReaches context schema value unit visit)
    (hhook : visit.rule.common.hook = some hook) :
    (State.start slots (planRecord registry standard context schema value)).Yields s schedule unit
      (resultOfHook hook visit.rule.common visit.rule.typeName standard visit.context visit.value
        call.argument) := by
  have hchecked : visit.checked registry standard = some call.argument := by
    obtain ⟨_, _, -, -, hchecked, -⟩ :=
      Visit.exists_hook_of_mem_calls ((mem_calls_of_mem_callsOf h hcall).2 visit hvisit)
    exact hchecked
  refine State.yields_of_only h (fun other hother => ?_) fun hfinal hundisturbed => ?_
  · obtain ⟨p, hp, hcomes⟩ := hother.exists_plan
    obtain rfl := hvisit.plan_eq hp
    exact (planValue_ensures_of_checked hvisit.isBlank_value hvisit.isConditional hhook
      hchecked).of_canComeTo hcomes
  · have hend := ((State.sound_start slots _).follow h).isEnded hslots hfinal
    exact State.exists_attains_of_mem_callsOf h hend hcall hundisturbed

/-- The hook of the rule that is active at a position, and the limit under which it is called. -/
structure HookAt (standard : Value) (context : Context) (schema : Schema) (value : Value) (unit : Path)
    (visit : Visit) (hook : Hook) (limit : Duration) : Prop where
  isAt : SchemaReaches context schema value unit visit
  isHook : visit.rule.common.hook = some hook
  isLimit : Duration.ofValue (timeoutOf visit.rule.common standard) = .ok limit

/-- How a call ends under its limit decides what the unit comes to that makes it. -/
theorem HookAt.yields {visit : Visit} {hook : Hook} {limit : Duration} {ending : Option (Attempt Value)}
    (hat : HookAt standard context schema value unit visit hook limit) (hslots : 1 ≤ slots)
    (h : (State.start slots (planRecord registry standard context schema value)).follow schedule = some s)
    (hcall : call ∈ (State.start slots (planRecord registry standard context schema value)).callsOf unit
      schedule)
    (hending : endingUnder (hook call.argument visit.context) limit = ending) :
    (State.start slots (planRecord registry standard context schema value)).Yields s schedule unit
      (guarded visit.value (resultOfCall visit.rule.typeName (timeoutOf visit.rule.common standard)
        call.argument ending)) := by
  rw [← hending, ← resultOfHook_eq hat.isLimit]
  exact yields_resultOfHook hslots h hcall hat.isAt hat.isHook

end

namespace Sample

end Sample

namespace Sample

end Sample

end Parallel

end RecordCheck
