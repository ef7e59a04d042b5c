import RecordCheck.Configuration.Basic
import RecordCheck.Parallel.Run

/-!
# Validating records

The way into the library: a record is validated against a schema with a configuration, of which a call
may override the settings.  A schema without hooks is validated in order and takes no time; one with
hooks is validated in parallel.  A record that passes is returned in its normal form; for one that fails
there is a payload that reports the errors.
-/

set_option autoImplicit false

namespace RecordCheck

/-- How a validation is called: by code that waits for it, by code that can be suspended, or by code
that waits for it although it should not, because it keeps all others waiting. -/
inductive Caller where
  | blocking
  | suspendable
  | insideLoop
  deriving DecidableEq, Repr

/-- What a call of a validation says besides the record and the schema: replacements for settings, and
options for custom validators and hooks. -/
structure CallArguments where
  overrides : Overrides
  options : Value

/-- What a validation says about a record: its normal form, or the payload that reports its errors. -/
inductive Verdict where
  | passed (record : Value)
  | failed (payload : Value)

/-- Whether a record passed. -/
def Verdict.isPassed : Verdict → Bool
  | .passed _ => true
  | .failed _ => false

/-- A verdict as the result that is handed out: the record without errors, or no value and the payload. -/
def Verdict.toResult : Verdict → Value
  | .passed record => .result true record (.list [])
  | .failed payload => .result false .null payload

/-- A validation that was carried out: its verdict, if it came to one, and its trace. -/
structure Validation where
  verdict : Option (Attempt Verdict)
  trace : Parallel.Trace

namespace Configuration

/-- The options for custom validators and hooks that a value gives; one that is not true gives none. -/
def optionsOf (v : Value) : Attempt Entries := if v.isTruthy then v.toEntries else pure []

/-- The verdict for an outcome. -/
def verdictOf (c : Configuration) : Outcome → Attempt Verdict
  | .accepted value _ => pure (.passed value)
  | .rejected _ errors => .failed <$> c.aggregator.build errors

/-- The settings and the context of a call. -/
def prepare (c : Configuration) (arguments : CallArguments) : Attempt (Settings × Context) := do
  let settings ← Settings.check (← c.withOverrides arguments.overrides).settings
  return (settings, ⟨[], settings.convert, ← optionsOf arguments.options⟩)

/-- Validate a record in order. -/
def validateInOrder (c : Configuration) (context : Context) (schema : Schema) (record : Value) :
    Validation :=
  ⟨some do c.verdictOf (← schema.validate c.registry context record), .empty⟩

/-- Validate a record in parallel, after the settings were written to the log. -/
def validateInParallel (c : Configuration) (settings : Settings) (context : Context)
    (schema : Schema) (record : Value) : Validation :=
  match settings.toGiven.shown with
  | .error fault => ⟨some (throw fault), .empty⟩
  | .ok _ =>
    let run := Parallel.validate c.registry settings.maxConcurrency (.int settings.timeout) context
      schema record
    ⟨run.result.map fun result => do c.verdictOf (← result), run.trace⟩

/-- Validate a record against a schema. -/
def validate (c : Configuration) (caller : Caller) (arguments : CallArguments) (schema : Schema)
    (record : Value) : Validation :=
  match c.prepare arguments with
  | .error fault => ⟨some (throw fault), .empty⟩
  | .ok (settings, context) =>
    if !schema.hasHook then c.validateInOrder context schema record
    else if caller = .insideLoop then
      ⟨some (throw (.loopRunning (schema.fields.map (·.1)))), .empty⟩
    else c.validateInParallel settings context schema record

/-- Validate records one after the other, up to the first that fails if that is asked for.  There are no
verdicts if one of the validations comes to none. -/
def validateMany (c : Configuration) (arguments : CallArguments) (stopOnError : Bool)
    (schema : Schema) : List Value → Option (Attempt (List Verdict))
  | [] => some (pure [])
  | record :: rest =>
    match (c.validate .blocking arguments schema record).verdict with
    | none => none
    | some (.error fault) => some (throw fault)
    | some (.ok verdict) =>
      if !verdict.isPassed && stopOnError then some (pure [verdict])
      else (c.validateMany arguments stopOnError schema rest).map fun verdicts => do
        return verdict :: (← verdicts)

end Configuration

end RecordCheck
