import RecordCheck.Number.Arithmetic
import RecordCheck.Regex.Error
import RecordCheck.Value.Basic

/-!
# Faults

A fault is the reason why an operation has no result: a value of a kind the operation is not defined
for, a schema or configuration that is not well formed, a misuse of an entry point, or something raised
by a caller's own function.  Problems of the data under validation are no faults; they are reported as
error entries.

A fault knows the kind it is reported under, its message, and, for those of the library's own kinds, a
context of named values.
-/

set_option autoImplicit false

namespace RecordCheck

/-- An order relation between values. -/
inductive Comparison where
  | less
  | lessOrEqual
  | greater
  deriving DecidableEq, Repr

/-- The sign of a relation. -/
def Comparison.sign : Comparison → String
  | .less => "<"
  | .lessOrEqual => "<="
  | .greater => ">"

/-- An operation met a value it is not defined for. -/
inductive OperationFault where
  | unordered (relation : Comparison) (left right : String)
  | mixedAwareness
  | dateWithTime
  | decimal (condition : Number.DecimalCondition)
  | longInteger
  | longNumeral (digits : Nat)
  | notNumeral (shown : String)
  | notNumber (kind : String)
  | notFinite (isDecimal isNaN : Bool)
  | unhashable (kind : String)
  | signalingKey
  | notIterable (kind : String)
  | notMapping (kind : String)
  | notPair (index : Nat)
  | pairLength (index length : Nat)
  | textContainer (kind : String)
  | notContainer (kind : String)
  | leftoverArguments (isText : Bool)
  | noLength (kind : String)
  | noMember (kind member : String)
  | notSubscriptable (kind : String)
  | badIndex (container kind : String)
  | missingKey (shown : String)
  | badOperands (operator left right : String)
  | badDelimiter (kind : String)
  | formatArguments (kind : String)
  | keywordsNotText
  | relativeImport (path : String)
  | unexpectedKeyword (function keyword : String)
  | repeatedArgument (function argument : String) (keyword : Bool)
  | missingArguments (function : String) (names : List String) (keywordOnly : Bool)
  | wrongArgumentCount (function : String) (expected given : Nat)
  | abstractValidator
  | notCallable (kind : String)
  | badPathElement (kind : String)
  | joinItem (index : Nat) (kind : String)
  | negativeSlots
  | largeTimeout
  | dateRange
  | notInteger (kind : String)
  | notBytes (kind : String)
  | byteRange
  | noCoercion (ruleKind : String)
  deriving Repr

/-- A rule or schema is not well formed. -/
inductive DefinitionFault where
  | hookNotAsync
  | timeoutNotPositive (shown : String) (timeout : Value)
  | negativeBound (kind bound shown : String) (value : Value)
  | crossedBounds (kind lowShown highShown : String) (low high : Value)
  | emptyDelimiter
  | whenWithoutThen (field : Value)
  | conditionalWithoutThen (field : Value)
  | conditionalWithoutCondition (field : Value)
  | fieldsNotMapping (kind : String)
  | fieldNotRule (shown kind : String) (field : Value)
  | definitionFieldsNotMapping (shown : String) (path : Value)
  | definitionNotMapping (shown : String) (path : Value)
  | definitionOptions (ruleType shown reason : String) (path : Value)
  | definitionWithoutField (shown : String) (path : Value)
  | definitionWithoutName (shown : String) (path : Value)
  | unknownRuleType (ruleType shown : String) (path : Value)

/-- A custom validator or hook has an unsupported shape. -/
inductive ValidatorFault where
  | unsupportedArity (shown : String) (name : Value) (arity : Nat)
  | unsupportedValidator (shown : String) (name : Value) (kind : String)
  | unsupportedItem (kind shown : String)
  | unsupportedResult (kind shown : String)

/-- A configuration is invalid or cannot be loaded. -/
inductive ConfigurationFault where
  | notBoolean (key shown : String)
  | notInteger (key shown : String)
  | notPositive (key shown : String)
  | badImportPath (path : String)
  | cannotImport (path reason : String)
  | unknownKeys (joined : String) (keys : List Value)
  | fileNotFound (path : String)
  | unsupportedFormat (suffix path : String)
  | fileNotMapping (path : String)

/-- A registry has no entry, or already has one, under a name. -/
inductive RegistryFault where
  | taken (shown : String) (key : Value) (registry : String)
  | notFound (shown : String) (key : Value) (registry : String) (available : Option (List Value))

/-- A kind of fault that a caller's function raises: its name, whether it aborts a validation, and
whether it carries a context. -/
structure RaisedKind where
  name : String
  aborts : Bool
  hasContext : Bool
  deriving DecidableEq, Repr

/-- A kind of fault that neither aborts a validation nor carries a context. -/
def RaisedKind.plain (name : String) : RaisedKind := ⟨name, false, false⟩

/-- Why an operation has no result. -/
inductive Fault where
  | operation (cause : OperationFault)
  | definition (cause : DefinitionFault)
  | validator (cause : ValidatorFault)
  | configuration (cause : ConfigurationFault)
  | registry (cause : RegistryFault)
  | loopRunning (fields : List Value)
  | pattern (error : Regex.Error)
  | document (kind message : String)
  | raised (kind : RaisedKind) (message : Option String)

/-! ## Operations -/

/-- Names joined as in a sentence, each in single quotes. -/
def namesInSentence (names : List String) : String :=
  let quoted := names.map fun n => "'" ++ n ++ "'"
  match quoted with
  | [] => ""
  | [a] => a
  | [a, b] => a ++ " and " ++ b
  | several => ", ".intercalate several.dropLast ++ ", and " ++ several.getLast?.getD ""

namespace OperationFault

/-- The kind under which a fault is reported. -/
def kind : OperationFault → String
  | .decimal .overflow => "Overflow"
  | .decimal _ => "InvalidOperation"
  | .longInteger | .longNumeral _ | .notNumeral _ | .pairLength .. | .negativeSlots | .byteRange =>
    "ValueError"
  | .notFinite _ isNaN => if isNaN then "ValueError" else "OverflowError"
  | .largeTimeout | .dateRange => "OverflowError"
  | .missingKey _ => "KeyError"
  | .noMember .. => "AttributeError"
  | _ => "TypeError"

/-- The message of a fault. -/
def message : OperationFault → String
  | .unordered relation left right =>
    "'" ++ relation.sign ++ "' not supported between instances of '" ++ left ++ "' and '" ++ right ++
      "'"
  | .mixedAwareness => "can't compare offset-naive and offset-aware datetimes"
  | .dateWithTime => "can't compare datetime.datetime to datetime.date"
  | .decimal condition => "[<class 'decimal." ++ condition.name ++ "'>]"
  | .longInteger =>
    "Exceeds the limit (4300 digits) for integer string conversion; " ++
      "use sys.set_int_max_str_digits() to increase the limit"
  | .longNumeral digits =>
    "Exceeds the limit (4300 digits) for integer string conversion: value has " ++
      toString digits ++ " digits; use sys.set_int_max_str_digits() to increase the limit"
  | .notNumeral shown => "invalid literal for int() with base 10: " ++ shown
  | .notNumber kind =>
    "int() argument must be a string, a bytes-like object or a real number, not '" ++ kind ++ "'"
  | .notFinite isDecimal isNaN =>
    "cannot convert " ++ (if isDecimal then "" else "float ") ++
      (if isNaN then "NaN" else if isDecimal then "Infinity" else "infinity") ++ " to integer"
  | .unhashable kind => "unhashable type: '" ++ kind ++ "'"
  | .signalingKey => "Cannot hash a signaling NaN value"
  | .notIterable kind => "'" ++ kind ++ "' object is not iterable"
  | .notMapping kind => "'" ++ kind ++ "' object is not a mapping"
  | .notPair index =>
    "cannot convert dictionary update sequence element #" ++ toString index ++ " to a sequence"
  | .pairLength index length =>
    "dictionary update sequence element #" ++ toString index ++ " has length " ++
      toString length ++ "; 2 is required"
  | .textContainer kind => "'in <string>' requires string as left operand, not " ++ kind
  | .notContainer kind => "argument of type '" ++ kind ++ "' is not iterable"
  | .leftoverArguments isText =>
    "not all arguments converted during " ++ (if isText then "string" else "bytes") ++ " formatting"
  | .noLength kind => "object of type '" ++ kind ++ "' has no len()"
  | .noMember kind member => "'" ++ kind ++ "' object has no attribute '" ++ member ++ "'"
  | .notSubscriptable kind => "'" ++ kind ++ "' object is not subscriptable"
  | .badIndex "str" kind => "string indices must be integers, not '" ++ kind ++ "'"
  | .badIndex "bytes" kind => "byte indices must be integers or slices, not " ++ kind
  | .badIndex container kind =>
    container ++ " indices must be integers or slices, not " ++ kind
  | .missingKey shown => shown
  | .badOperands operator left right =>
    "unsupported operand type(s) for " ++ operator ++ ": '" ++ left ++ "' and '" ++ right ++ "'"
  | .badDelimiter kind => "must be str or None, not " ++ kind
  | .formatArguments kind => "str.format() argument after ** must be a mapping, not " ++ kind
  | .keywordsNotText => "keywords must be strings"
  | .relativeImport path =>
    "the 'package' argument is required to perform a relative import for '" ++ path ++ "'"
  | .unexpectedKeyword function keyword =>
    function ++ "() got an unexpected keyword argument '" ++ keyword ++ "'"
  | .repeatedArgument function argument keyword =>
    function ++ "() got multiple values for " ++ (if keyword then "keyword " else "") ++
      "argument '" ++ argument ++ "'"
  | .missingArguments function names keywordOnly =>
    function ++ "() missing " ++ toString names.length ++ " required " ++
      (if keywordOnly then "keyword-only" else "positional") ++ " argument" ++
      (if names.length = 1 then "" else "s") ++ ": " ++ namesInSentence names
  | .wrongArgumentCount function expected given =>
    function ++ "() takes " ++ toString expected ++ " positional argument" ++
      (if expected = 1 then "" else "s") ++ " but " ++ toString given ++
      (if given = 1 then " was" else " were") ++ " given"
  | .abstractValidator =>
    "Can't instantiate abstract class Abstract with abstract method validate"
  | .notCallable kind => "'" ++ kind ++ "' object is not callable"
  | .badPathElement kind => "expected str, bytes or os.PathLike object, not " ++ kind
  | .joinItem index kind =>
    "sequence item " ++ toString index ++ ": expected str instance, " ++ kind ++ " found"
  | .negativeSlots => "Semaphore initial value must be >= 0"
  | .largeTimeout => "integer division result too large for a float"
  | .dateRange => "date value out of range"
  | .notInteger kind => "'" ++ kind ++ "' object cannot be interpreted as an integer"
  | .notBytes kind => "a bytes-like object is required, not '" ++ kind ++ "'"
  | .byteRange => "byte must be in range(0, 256)"
  | .noCoercion ruleKind => "No coercer for rule type " ++ ruleKind

end OperationFault

/-! ## Definitions, validators, configuration and registries -/

/-- A context: named values that say more about a fault. -/
abbrev FaultContext := List (String × Value)

namespace DefinitionFault

/-- The message of a fault. -/
def message : DefinitionFault → String
  | .hookNotAsync => "async_hook must be a coroutine function (async def)"
  | .timeoutNotPositive shown _ =>
    "timeout must be a positive number of milliseconds, got " ++ shown
  | .negativeBound kind bound shown _ => kind ++ " " ++ bound ++ " cannot be negative: " ++ shown
  | .crossedBounds kind lowShown highShown _ _ =>
    kind ++ " min (" ++ lowShown ++ ") cannot be greater than max (" ++ highShown ++ ")"
  | .emptyDelimiter => "array delimiter cannot be empty"
  | .whenWithoutThen _ => "when() requires a 'then' rule"
  | .conditionalWithoutThen _ => "conditional rule requires a 'then' rule"
  | .conditionalWithoutCondition _ =>
    "conditional rule requires at least one condition (is/in/matches/min/max)"
  | .fieldsNotMapping kind => "schema fields must be a mapping, got " ++ kind
  | .fieldNotRule shown kind _ => "Field '" ++ shown ++ "' must map to a Rule, got " ++ kind
  | .definitionFieldsNotMapping shown _ => "'fields' of " ++ shown ++ " must be a mapping"
  | .definitionNotMapping shown _ => "Rule definition for " ++ shown ++ " must be a mapping"
  | .definitionOptions ruleType shown reason _ =>
    "Invalid options for " ++ ruleType ++ " rule at " ++ shown ++ ": " ++ reason
  | .definitionWithoutField shown _ => "'when' rule at " ++ shown ++ " requires 'field'"
  | .definitionWithoutName shown _ => "'custom' rule at " ++ shown ++ " requires 'name'"
  | .unknownRuleType ruleType shown _ => "Unknown rule type '" ++ ruleType ++ "' at " ++ shown

/-- The context of a fault. -/
def context : DefinitionFault → FaultContext
  | .hookNotAsync => [("hook", .text "<hook>")]
  | .timeoutNotPositive _ timeout => [("timeout", timeout)]
  | .negativeBound _ bound _ value => [(bound, value)]
  | .crossedBounds _ _ _ low high => [("min", low), ("max", high)]
  | .emptyDelimiter | .fieldsNotMapping _ => []
  | .whenWithoutThen field | .conditionalWithoutThen field | .conditionalWithoutCondition field
  | .fieldNotRule _ _ field => [("field", field)]
  | .definitionFieldsNotMapping _ path | .definitionNotMapping _ path
  | .definitionWithoutField _ path | .definitionWithoutName _ path => [("path", path)]
  | .definitionOptions ruleType _ _ path | .unknownRuleType ruleType _ path =>
    [("path", path), ("type", .text ruleType)]

end DefinitionFault

namespace ValidatorFault

/-- The message of a fault. -/
def message : ValidatorFault → String
  | .unsupportedArity shown _ arity =>
    "Custom validator '" ++ shown ++ "' must accept 1 to 3 positional arguments, got " ++
      toString arity
  | .unsupportedValidator shown _ kind =>
    "Unsupported validator for custom type '" ++ shown ++ "': " ++ kind
  | .unsupportedItem kind _ => "Unsupported error item from custom validator: " ++ kind
  | .unsupportedResult kind _ => "Unsupported result from validator: " ++ kind

/-- The context of a fault. -/
def context : ValidatorFault → FaultContext
  | .unsupportedArity _ name arity => [("type", name), ("arity", .int arity)]
  | .unsupportedValidator _ name _ => [("type", name)]
  | .unsupportedItem _ shown => [("item", .text shown)]
  | .unsupportedResult _ shown => [("result", .text shown)]

end ValidatorFault

namespace ConfigurationFault

/-- The message of a fault. -/
def message : ConfigurationFault → String
  | .notBoolean key shown => "Invalid boolean for '" ++ key ++ "': " ++ shown
  | .notInteger key shown => "Invalid integer for '" ++ key ++ "': " ++ shown
  | .notPositive key shown => "'" ++ key ++ "' must be a positive integer, got " ++ shown
  | .badImportPath path => "Invalid import path: " ++ path
  | .cannotImport path reason => "Cannot import '" ++ path ++ "': " ++ reason
  | .unknownKeys joined _ => "Unknown configuration keys: " ++ joined
  | .fileNotFound path => "Configuration file not found: " ++ path
  | .unsupportedFormat suffix _ => "Unsupported file format: " ++ suffix
  | .fileNotMapping path => "Configuration file must contain a mapping: " ++ path

/-- The context of a fault. -/
def context : ConfigurationFault → FaultContext
  | .notBoolean key _ | .notInteger key _ | .notPositive key _ => [("key", .text key)]
  | .badImportPath path | .cannotImport path _ | .fileNotFound path | .unsupportedFormat _ path
  | .fileNotMapping path => [("path", .text path)]
  | .unknownKeys _ keys => [("unknown_keys", .list keys)]

end ConfigurationFault

namespace RegistryFault

/-- The message of a fault. -/
def message : RegistryFault → String
  | .taken shown _ registry => "Item '" ++ shown ++ "' already registered in " ++ registry
  | .notFound shown _ _ _ => "Item not found: " ++ shown

/-- The context of a fault. -/
def context : RegistryFault → FaultContext
  | .taken _ key registry => [("key", key), ("registry", .text registry)]
  | .notFound _ key registry available =>
    [("key", key), ("registry", .text registry)] ++
      (available.map fun keys => [("available_keys", .list keys)]).getD []

end RegistryFault

/-! ## Faults -/

namespace Fault

/-- The kind under which a fault is reported. -/
def kind : Fault → String
  | .operation cause => cause.kind
  | .definition _ => "SchemaDefinitionError"
  | .validator _ => "CustomValidatorError"
  | .configuration _ => "ConfigurationError"
  | .registry (.taken ..) => "OperationError"
  | .registry (.notFound ..) => "NotFoundError"
  | .loopRunning _ => "SchedulerError"
  | .pattern error =>
    match error.problem with
    | .largeRepetition => "OverflowError"
    | .asciiAndUnicode => "ValueError"
    | _ => "error"
  | .document kind _ => kind
  | .raised kind _ => kind.name

/-- The message of a fault.  The message raised with a missing key is shown quoted. -/
def message : Fault → String
  | .operation cause => cause.message
  | .definition cause => cause.message
  | .validator cause => cause.message
  | .configuration cause => cause.message
  | .registry cause => cause.message
  | .loopRunning _ =>
    "Schema declares async hooks and an event loop is already running; " ++
      "use validate_async() instead"
  | .pattern error => String.ofList error.message
  | .document _ message => message
  | .raised kind message =>
    match message with
    | none => ""
    | some m => if kind.name = "KeyError" then String.ofList (Text.quoted m.toList) else m

/-- The context of a fault of a kind that has one. -/
def context? : Fault → Option FaultContext
  | .definition cause => some cause.context
  | .validator cause => some cause.context
  | .configuration cause => some cause.context
  | .registry cause => some cause.context
  | .loopRunning fields => some [("fields", .list fields)]
  | .raised kind _ => if kind.hasContext then some [] else none
  | .operation _ | .pattern _ | .document .. => none

/-- Whether a fault aborts a validation wherever it arises: it is a mistake of the programmer, not of
the data. -/
def isAborting : Fault → Bool
  | .definition _ | .validator _ | .configuration _ | .loopRunning _ => true
  | .raised kind _ => kind.aborts
  | .operation _ | .registry _ | .pattern _ | .document .. => false

/-- What a fault says as the reason of something else: its message, or its kind if it has none. -/
def reason (f : Fault) : String := if f.message = "" then f.kind else f.message

end Fault

/-- A computation that may fail. -/
abbrev Attempt (α : Type) := Except Fault α

/-- Fail because a value does not allow an operation. -/
def refuse {α : Type} (cause : OperationFault) : Attempt α := throw (.operation cause)

end RecordCheck
