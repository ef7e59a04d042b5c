import RecordCheck.Custom.Validator
import RecordCheck.Report.Payload
import RecordCheck.Rule.Basic

/-!
# Arguments

Rules, schemas and configurations are built from arguments.  Most are values; the others are rules,
schemas, conditions and functions, and mappings that hold any of these.
-/

set_option autoImplicit false

namespace RecordCheck

/-- Something that a rule, schema or configuration is built from. -/
inductive Argument where
  | value (v : Value)
  | rule (r : Rule)
  | schema (s : Schema)
  | conditions (c : Conditions)
  | hook (h : Hook)
  | candidate (c : Custom.Candidate) (kind : String)
  | formatter (f : Formatter) (isStandard : Bool)
  | translator (t : Translator) (isStandard : Bool)
  | function
  | mapping (entries : List (Value × Argument))
  | other (kind : String)

namespace Argument

/-- The null argument. -/
def null : Argument := value .null

/-- Whether an argument is null. -/
def isNull : Argument → Bool
  | value v => v.isNull
  | _ => false

/-- Whether an argument counts as true. -/
def isTruthy : Argument → Bool
  | value v => v.isTruthy
  | mapping entries => !entries.isEmpty
  | _ => true

/-- The name of an argument's kind. -/
def kindName : Argument → String
  | value v => v.kindName
  | rule (.text ..) => "StringRule"
  | rule (.number ..) => "NumberRule"
  | rule (.boolean ..) => "BooleanRule"
  | rule (.date ..) => "DateRule"
  | rule (.object ..) => "ObjectRule"
  | rule (.array ..) => "ArrayRule"
  | rule (.conditional ..) => "ConditionalRule"
  | rule (.custom ..) => "CustomRule"
  | schema _ => "Schema"
  | conditions _ => "Conditions"
  | candidate _ kind | other kind => kind
  | mapping _ => "dict"
  | hook _ | formatter .. | translator .. | function => "function"

/-- The name of an argument's kind with the family it belongs to, as operators report it. -/
def operandName : Argument → String
  | value v => v.operandName
  | a => a.kindName

/-- The entries of a mapping. -/
def entries? : Argument → Option (List (Value × Argument))
  | mapping entries => some entries
  | value (.dict entries) => some (entries.map fun (key, v) => (key, value v))
  | _ => none

mutual

/-- The argument that a value is; mappings in it can hold other arguments afterwards. -/
def ofValue : Value → Argument
  | .dict entries => mapping (ofEntries entries)
  | v => value v

/-- The arguments that the values of a mapping are. -/
def ofEntries : List (Value × Value) → List (Value × Argument)
  | [] => []
  | (key, v) :: rest => (key, ofValue v) :: ofEntries rest

end

mutual

/-- The value that an argument must be where only values have a use. -/
def needValue : Argument → Attempt Value
  | value v => pure v
  | mapping entries => .dict <$> needEntries entries
  | a => refuse (.unordered .less a.operandName "int")

/-- The values that the arguments of a mapping must be. -/
def needEntries : List (Value × Argument) → Attempt Entries
  | [] => pure []
  | (key, a) :: rest => do return (key, ← needValue a) :: (← needEntries rest)

end

/-- The rule that an argument is, none if it is null. -/
def needRule : Argument → Attempt (Option Rule)
  | rule r => pure (some r)
  | a => if a.isNull then pure none else refuse (.noMember a.operandName "has_async")

/-- What an argument says where a custom validator is registered. -/
def toCandidate : Argument → Custom.Candidate
  | candidate c _ => c
  | a => .other a.kindName

end Argument

/-- Named arguments, in the order in which they are given. -/
abbrev Keywords := List (String × Argument)

namespace Keywords

/-- The argument of a name, null if it is not given. -/
def get (k : Keywords) (name : String) : Argument := (k.lookup name).getD .null

/-- The value of a name, or a default one if it is not given. -/
def value (k : Keywords) (name : String) (default : Value) : Attempt Value :=
  match k.lookup name with
  | none => pure default
  | some a => a.needValue

/-- The value of a name, none if it is not given. -/
def value? (k : Keywords) (name : String) : Attempt (Option Value) :=
  match k.lookup name with
  | none => pure none
  | some a => some <$> a.needValue

/-- Refuse a name that a function does not know, or that it is given by position already. -/
def check (k : Keywords) (function : String) (position : Option String) (known : List String) :
    Attempt Unit :=
  match k.find? fun e => !known.contains e.1 with
  | none => pure ()
  | some (name, _) =>
    if position = some name then refuse (.repeatedArgument function name false)
    else refuse (.unexpectedKeyword function name)

/-- Refuse names with no argument that a function needs. -/
def need (k : Keywords) (function : String) (needed : List String) : Attempt Unit :=
  match needed.filter fun name => (k.lookup name).isNone with
  | [] => pure ()
  | names => refuse (.missingArguments function names true)

end Keywords

/-- The argument that a function needs by position. -/
def needFirst (function name : String) (first : Option Argument) : Attempt Argument :=
  match first with
  | some a => pure a
  | none => refuse (.missingArguments function [name] false)

end RecordCheck
