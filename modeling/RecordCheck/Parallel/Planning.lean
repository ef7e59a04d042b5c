import RecordCheck.Parallel.Deadline
import RecordCheck.Parallel.Plan
import RecordCheck.Validation

/-!
# Planning a validation

The plan for a value follows its rule.  A record whose fields have hooks forks into its fields, and an
array whose elements have hooks into its elements; any other value is validated in one stay.  A rule's
own hook is called, in a stay of its own, once the value has been accepted without it.

Whatever goes wrong in a unit is reported as an error of its value, unless the fault is one that aborts.
-/

set_option autoImplicit false

namespace RecordCheck.Parallel

/-! ## Results -/

/-- What a unit comes to, given what its work came to: a fault that does not abort becomes an error of
the value. -/
def guarded (value : Value) (result : Attempt Outcome) : Attempt Outcome :=
  match result with
  | .ok outcome => pure outcome
  | .error fault =>
    if fault.isAborting then throw fault
    else Outcome.rejectFor value .asyncError
      [(.text "reason", .text fault.reason), (.text "exception", .text fault.kind)]

/-- The default code of errors from the hook of a rule type. -/
def hookCode (typeName : String) : Value := .text (typeName ++ "_async")

/-- What a call of a hook comes to for the value that it checks: what its answer stands for, or an error
if it was cut off and let that happen. -/
def resultOfCall (typeName : String) (timeout value : Value) :
    Option (Attempt Value) → Attempt Outcome
  | none => Outcome.rejectFor value .asyncTimeout [(.text "timeout", timeout)]
  | some ending => do Custom.normalize (← ending) value (hookCode typeName)

/-- The timeout of a hook: that of its rule if there is one, else the one for the whole validation. -/
def timeoutOf (common : Common) (standard : Value) : Value :=
  if common.timeout.isTruthy then common.timeout else standard

/-- The call of a hook on a value that has been accepted.  If its timeout is no duration, it fails in its
slot. -/
def callHook (hook : Hook) (typeName : String) (timeout value : Value) (context : Context) : Work :=
  match Duration.ofValue timeout with
  | .error fault => ⟨[.brief], .error fault⟩
  | .ok limit =>
    let call := hook value context
    let ending := endingUnder call limit
    ⟨[⟨some ⟨value, context, ending⟩, pausesUnder call limit⟩],
      resultOfCall typeName timeout value ending⟩

/-- The rest of a unit's work, given what the checks without hooks came to: the call of the rule's hook
if there is one and the value was accepted. -/
def afterChecks (common : Common) (typeName : String) (standard : Value) (context : Context)
    (checked : Attempt Outcome) : Work :=
  match checked, common.hook with
  | .ok (.accepted value _), some hook =>
    callHook hook typeName (timeoutOf common standard) value context
  | checked, _ => .only checked

/-- The rest of a unit's work with its faults reported as errors of the value. -/
def finish (common : Common) (typeName : String) (standard : Value) (context : Context)
    (value : Value) (checked : Attempt Outcome) : Work :=
  let work := afterChecks common typeName standard context checked
  { work with result := guarded value work.result }

/-! ## Units -/

/-- The plan for a value that is validated in one stay. -/
def planWhole (registry : Custom.Registry) (standard : Value) (context : Context) (rule : Rule)
    (value : Value) : Plan :=
  .stay .brief
    (finish rule.common rule.typeName standard context value
      (rule.validate registry context false value)).plan

/-- The plan for a value that no rule looks at. -/
def planUnchecked (value : Value) (required : Bool) : Plan := .ends (unchecked value required)

/-- The plan for an array: it is checked as a whole in one stay and forks into its items. -/
def planItems (common : Common) (standard : Value) (context : Context) (value : Value)
    (element : Rule) (planElement : Value → Plan) (checked : Attempt Outcome) : Plan :=
  .stay .brief
    (match checked with
    | .ok (.accepted (.list items) _) =>
      match element.activate context.data with
      | .ok _ =>
        .fork (items.map planElement)
          (fun outcomes =>
            finish common "array" standard context value (pure (mergeElements items outcomes)))
          (fun fault => guarded value (.error fault))
      | .error fault => .ends (guarded value (.error fault))
    | checked => .ends (guarded value checked))

/-- The plan for a field of a record, given how to plan its value. -/
def planField (data : Entries) (name : Value) (rule : Rule) (planValue : Value → Plan) : Plan :=
  match rule.activate data with
  | .error fault => .ends (.error fault)
  | .ok (_, required) =>
    match data.resolve name with
    | none => .ends (Outcome.absent required.isTruthy)
    | some (_, value) => planValue value

/-- The names of fields. -/
def namesOf (fields : List (Value × Rule)) : List Value := fields.map (·.1)

mutual

/-- The plan for a value under a rule. -/
def planValue (registry : Custom.Registry) (standard : Value) (context : Context) :
    Rule → Value → Plan
  | .conditional common field conditions consequent otherwise base, value =>
    match conditions.holdIn field context.data with
    | .error fault => .ends (.error fault)
    | .ok true => planValue registry standard context consequent value
    | .ok false =>
      planBranch registry standard context
        (planBranch registry standard context
          (fun v => planUnchecked v common.required.isTruthy) base)
        otherwise value
  | .object common fields defaults, value =>
    if value.isBlank then planUnchecked value common.required.isTruthy
    else if Rule.fieldsHaveHook fields then
      match value with
      | .dict entries =>
        let data := Entries.withDefaults entries defaults
        .fork (planFields registry standard (context.forData data) data fields)
          (fun outcomes =>
            finish common "object" standard context value
              (pure (mergeFields data ((namesOf fields).zip outcomes))))
          (fun fault => guarded value (.error fault))
      | _ => .ends (Outcome.rejectFor value .object [])
    else planWhole registry standard context (.object common fields defaults) value
  | .array common (some element) checks, value =>
    if value.isBlank then planUnchecked value common.required.isTruthy
    else if element.hasHook then
      planItems common standard context value element
        (planValue registry standard context element)
        (Coercion.coerceArray checks context.convert value)
    else planWhole registry standard context (.array common (some element) checks) value
  | rule, value =>
    if value.isBlank then planUnchecked value rule.isRequired
    else planWhole registry standard context rule value

/-- The plan for a value under a branch, or as `absent` says if there is no such branch. -/
def planBranch (registry : Custom.Registry) (standard : Value) (context : Context)
    (absent : Value → Plan) : Option Rule → Value → Plan
  | none, value => absent value
  | some r, value => planValue registry standard context r value

/-- The plans for the fields of a record. -/
def planFields (registry : Custom.Registry) (standard : Value) (context : Context) (data : Entries) :
    List (Value × Rule) → List Plan
  | [] => []
  | (name, r) :: rest =>
    planField data name r (planValue registry standard context r) ::
      planFields registry standard context data rest

end

/-- The plan for a record under a schema. -/
def planRecord (registry : Custom.Registry) (standard : Value) (context : Context) (schema : Schema)
    (value : Value) : Plan :=
  match value with
  | .dict entries =>
    let data := Entries.withDefaults entries schema.defaults
    .fork (planFields registry standard (context.forData data) data schema.fields)
      (fun outcomes =>
        .only (pure (mergeFields data ((namesOf schema.fields).zip outcomes))))
      .error
  | value => .ends (notARecord value)

end RecordCheck.Parallel
