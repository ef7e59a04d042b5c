import RecordCheck.Regex.Reader
import RecordCheck.Rule.Argument
import RecordCheck.Value.Text

/-!
# Building rules

Each kind of rule has a function that builds it from named arguments.  Arguments that contradict each
other, or that a rule of the kind does not have, are refused when the rule is built.
-/

set_option autoImplicit false

namespace RecordCheck.Build

/-! ## Parts of rules -/

/-- The hook of a rule: absent, or a function that can pause. -/
def hookOf (k : Keywords) : Attempt (Option Hook) :=
  match k.get "async_hook" with
  | .hook h => pure (some h)
  | a => if a.isNull then pure none else throw (.definition .hookNotAsync)

/-- Refuse a timeout that is not positive. -/
def checkTimeout (timeout : Value) : Attempt Unit := do
  if timeout.isNull then return
  if ← timeout.compareWith .lessOrEqual (.int 0) then
    throw (.definition (.timeoutNotPositive (← timeout.textOf) timeout))

/-- What every rule has. -/
def commonOf (k : Keywords) : Attempt Common := do
  let required ← k.value "required" (.bool false)
  let hook ← hookOf k
  let timeout ← k.value "timeout" .null
  checkTimeout timeout
  return { required, hook, timeout }

/-- Refuse a bound that is negative. -/
def checkNotNegative (kind bound : String) (v : Value) : Attempt Unit := do
  if v.isNull then return
  if ← v.compareWith .less (.int 0) then
    throw (.definition (.negativeBound kind bound (← v.textOf) v))

/-- Refuse bounds of which the lower is greater than the upper. -/
def checkOrder (kind : String) (low high : Value) : Attempt Unit := do
  if low.isNull || high.isNull then return
  if ← low.compareWith .greater high then
    throw (.definition (.crossedBounds kind (← low.textOf) (← high.textOf) low high))

/-- Refuse bounds on a size that are negative or contradict each other. -/
def checkSizes (kind : String) (low high : Value) : Attempt Unit := do
  checkNotNegative kind "min" low
  checkNotNegative kind "max" high
  checkOrder kind low high

/-- A pattern given by its source or ready made. -/
def compilePattern (v : Value) : Attempt Value :=
  match v.text? with
  | none => pure v
  | some source =>
    match Regex.Pattern.compile source [] with
    | .ok p => pure (.pattern p)
    | .error e => throw (.pattern e)

/-- Words of a boolean rule, none if they are not given. -/
def wordsOf (v : Value) : Attempt (Option (List Value)) :=
  if v.isNull then pure none else some <$> v.items

/-! ## Rules without parts -/

/-- The arguments that every rule but a conditional one has. -/
def commonNames : List String := ["required", "async_hook", "timeout"]

/-- A text rule. -/
def text (k : Keywords) : Attempt Rule := do
  k.check "string" none (commonNames ++ ["min", "max", "pattern", "email"])
  let common ← commonOf k
  let min ← k.value "min" .null
  let max ← k.value "max" .null
  checkSizes "string" min max
  let pattern ← compilePattern (← k.value "pattern" .null)
  return .text common { min, max, pattern, email := ← k.value "email" (.bool false) }

/-- A number rule. -/
def number (k : Keywords) : Attempt Rule := do
  k.check "number" none (commonNames ++ ["min", "max", "integer"])
  let common ← commonOf k
  let min ← k.value "min" .null
  let max ← k.value "max" .null
  checkOrder "number" min max
  return .number common { min, max, integer := ← k.value "integer" (.bool false) }

/-- A boolean rule. -/
def boolean (k : Keywords) : Attempt Rule := do
  k.check "boolean" none (commonNames ++ ["truthy", "falsy"])
  let common ← commonOf k
  let truthy ← wordsOf (← k.value "truthy" .null)
  let falsy ← wordsOf (← k.value "falsy" .null)
  return .boolean common { truthy, falsy }

/-- A date rule. -/
def date (k : Keywords) : Attempt Rule := do
  k.check "date" none commonNames
  return .date (← commonOf k)

/-! ## Schemas and nested records -/

/-- Default values, none if they count as false. -/
def defaultsOf (defaults : Argument) : Attempt Entries := do
  if !defaults.isTruthy then return []
  (← defaults.needValue).toEntries

/-- The rule of a field. -/
def fieldRule (name : Value) (a : Argument) : Attempt Rule :=
  match a with
  | .rule r => pure r
  | a => do throw (.definition (.fieldNotRule (← name.textOf) a.kindName name))

/-- A schema from a mapping of names to rules, and defaults. -/
def schema (fields defaults : Argument) : Attempt Schema := do
  match fields.entries? with
  | none => throw (.definition (.fieldsNotMapping fields.kindName))
  | some entries =>
    let rules ← entries.mapM fun (name, a) => do return (name, ← fieldRule name a)
    return ⟨rules, ← defaultsOf defaults⟩

/-- A schema with more defaults. -/
def withMoreDefaults (s : Schema) (defaults : Argument) : Attempt Schema := do
  if !defaults.isTruthy then return s
  match ← defaults.needValue with
  | .dict entries => return { s with defaults := Entries.update s.defaults entries }
  | v => refuse (.notMapping v.operandName)

/-- The position of a nested record's schema or fields. -/
def objectPosition : String := "fields_or_schema"

/-- A rule for nested records, from a schema or from fields. -/
def object (first : Option Argument) (k : Keywords) : Attempt Rule := do
  k.check "object_" (some objectPosition) (commonNames ++ ["defaults"])
  let nested ← match ← needFirst "object_" objectPosition first with
    | .schema s => withMoreDefaults s (k.get "defaults")
    | fields => schema fields (k.get "defaults")
  return .object (← commonOf k) nested.fields nested.defaults

/-! ## Arrays, conditional and custom rules -/

/-- A bound that may be given by either of two names; the first is preferred. -/
def boundOf (k : Keywords) (name other : String) : Attempt Value := do
  let v ← k.value name .null
  if v.isNull then k.value other .null else return v

/-- An array rule. -/
def array (k : Keywords) : Attempt Rule := do
  k.check "array" none (commonNames ++ ["of", "min_items", "max_items", "min", "max", "unique",
    "delimiter"])
  let common ← commonOf k
  let minItems ← boundOf k "min_items" "min"
  let maxItems ← boundOf k "max_items" "max"
  checkSizes "array" minItems maxItems
  let delimiter ← k.value "delimiter" (.text ",")
  if !delimiter.isTruthy then throw (.definition .emptyDelimiter)
  let unique ← k.value "unique" (.bool false)
  return .array common (← (k.get "of").needRule) { minItems, maxItems, unique, delimiter }

/-- Conditions. -/
def conditions (k : Keywords) : Attempt Conditions := do
  let equals ← k.value? "is_"
  let oneOf ← k.value? "in_"
  let pattern ← compilePattern (← k.value "matches" .null)
  return { equals, oneOf, pattern, min := ← k.value "min" .null, max := ← k.value "max" .null }

/-- The conditions that an argument must be. -/
def needConditions : Argument → Attempt Conditions
  | .conditions c => pure c
  | a => refuse (.noMember a.operandName "is_configured")

/-- A conditional rule from its parts. -/
def conditional (k : Keywords) (field : Value) (conditions : Argument) : Attempt Rule := do
  let common ← commonOf k
  if (k.get "then").isNull then throw (.definition (.conditionalWithoutThen field))
  let conditions ← needConditions conditions
  if !conditions.isConfigured then throw (.definition (.conditionalWithoutCondition field))
  let consequent ← (k.get "then").needRule
  let otherwise ← (k.get "otherwise").needRule
  let base ← (k.get "base").needRule
  match consequent with
  | some r => return .conditional common field conditions r otherwise base
  | none => throw (.definition (.conditionalWithoutThen field))

/-- A conditional rule with the conditions among its arguments. -/
def whenever (first : Option Argument) (k : Keywords) : Attempt Rule := do
  k.check "when" (some "field") ["then", "otherwise", "is_", "in_", "matches", "min", "max",
    "required", "base"]
  let field ← (← needFirst "when" "field" first).needValue
  if (k.get "then").isNull then throw (.definition (.whenWithoutThen field))
  conditional k field (.conditions (← conditions k))

/-- A conditional rule with its conditions made before. -/
def conditionalRule (k : Keywords) : Attempt Rule := do
  let function := "ConditionalRule.__init__"
  k.check function none (commonNames ++ ["field", "conditions", "then", "otherwise", "base"])
  k.need function ["field", "conditions", "then"]
  conditional k (← (k.get "field").needValue) (k.get "conditions")

/-- A rule that refers to a custom type; arguments that are not its own are options. -/
def custom (first : Option Argument) (k : Keywords) : Attempt Rule := do
  let position := "type_name"
  if (k.lookup position).isSome then refuse (.repeatedArgument "custom" position false)
  let typeName ← needFirst "custom" position first
  let common ← commonOf k
  let given := k.filter fun e => !commonNames.contains e.1
  let options ← given.mapM fun (name, a) => do return (Value.text name, ← a.needValue)
  return .custom common (← typeName.needValue) options

/-- The kinds of rules that can be built. -/
inductive Kind where
  | text
  | number
  | boolean
  | date
  | object
  | array
  | whenever
  | custom
  | conditionalRule
  deriving DecidableEq, Repr

/-- A rule of a kind. -/
def ofKind (kind : Kind) (first : Option Argument) (k : Keywords) : Attempt Rule :=
  match kind with
  | .text => text k
  | .number => number k
  | .boolean => boolean k
  | .date => date k
  | .object => object first k
  | .array => array k
  | .whenever => whenever first k
  | .custom => custom first k
  | .conditionalRule => conditionalRule k

end RecordCheck.Build
