import RecordCheck.Catalogue
import RecordCheck.Rule.Build
import RecordCheck.Text.Case

/-!
# Rule definitions

A schema can be defined by nested mappings instead of being built: a rule definition names its type and
gives the arguments of the rule beside it, with definitions in the place of nested rules.  Every fault
names the path to the definition that it lies in.
-/

set_option autoImplicit false

namespace RecordCheck.Definition

/-- An argument of a definition, with the ways in which it can be read as a definition itself, given the
path to it. -/
structure Part where
  argument : Argument
  rule : Value → Attempt Rule
  fields : Value → Attempt (List (Value × Rule))

/-- The arguments of a definition. -/
abbrev Parts := List (Value × Part)

/-- The part of a name, and the others. -/
def takePart (name : String) (parts : Parts) : Option Part × Parts :=
  ((parts.find? fun p => p.1.sameKey (.text name)).map (·.2),
    parts.filter fun p => !p.1.sameKey (.text name))

/-- The argument of a part, null if there is none. -/
def argumentOf (part : Option Part) : Argument := (part.map (·.argument)).getD .null

/-- A path that goes on from another. -/
def pathOf (path : Value) (more : String) : Attempt Value := do
  return .text ((← path.textOf) ++ more)

/-! ## Arguments -/

/-- The arguments of a function by name; every name must be a text. -/
def keywordsOf (parts : List (Value × Argument)) : Attempt Keywords :=
  parts.mapM fun (name, a) =>
    match name.text? with
    | some s => pure (s, a)
    | none => refuse .keywordsNotText

/-- What remains of a definition as arguments. -/
def remaining (parts : Parts) : List (Value × Argument) :=
  parts.map fun (name, p) => (name, p.argument)

/-- The arguments that every rule has, taken out of a definition; a hook may be given by its import
path. -/
def takeCommon (catalogue : Catalogue) (parts : Parts) :
    Attempt (List (Value × Argument) × Parts) := do
  let (required, parts) := takePart "required" parts
  let (hook, parts) := takePart "async_hook" parts
  let (timeout, parts) := takePart "timeout" parts
  let required := (required.map (·.argument)).getD (.value (.bool false))
  let hook ← hook.mapM fun p => catalogue.resolve p.argument
  return ((.text "required", required) ::
      (hook.toList.map fun a => (Value.text "async_hook", a)) ++
      (timeout.toList.map fun p => (Value.text "timeout", p.argument)), parts)

/-- Refuse an argument that is given twice. -/
def checkRepeated (function : String) (given : List String) (parts : Parts) : Attempt Unit :=
  match parts.findSome? fun p => p.1.text?.filter given.contains with
  | some name => refuse (.repeatedArgument function name true)
  | none => pure ()

/-! ## Rules -/

/-- A branch of a conditional rule; one that is null stays an argument. -/
def takeBranch (path : Value) (name : String) (parts : Parts) :
    Attempt (List (Value × Argument) × Parts) := do
  match takePart name parts with
  | (none, _) => return ([], parts)
  | (some p, others) =>
    if p.argument.isNull then return ([], parts)
    let r ← p.rule (← pathOf path ("." ++ name))
    return ([(.text name, .rule r)], others)

/-- A definition of a conditional rule. -/
def wheneverOf (path : Value) (common : List (Value × Argument)) (parts : Parts) :
    Attempt Rule := do
  let (field, parts) := takePart "field" parts
  let field := argumentOf field
  if !field.isTruthy then throw (.definition (.definitionWithoutField (← path.textOf) path))
  let (consequent, parts) ← takeBranch path "then" parts
  let (otherwise, parts) ← takeBranch path "otherwise" parts
  let (base, parts) ← takeBranch path "base" parts
  let (equals, parts) := takePart "is" parts
  let (oneOf, parts) := takePart "in" parts
  checkRepeated "dataknobs_schema.builders.when" ["is_", "in_"] parts
  let conditions := (equals.toList.map fun p => (Value.text "is_", p.argument)) ++
    (oneOf.toList.map fun p => (Value.text "in_", p.argument))
  let k ← keywordsOf
    (conditions ++ consequent ++ otherwise ++ base ++ common ++ remaining parts)
  Build.whenever (some field) k

/-- A definition of a rule for nested records. -/
def objectOf (path : Value) (common : List (Value × Argument)) (parts : Parts) : Attempt Rule := do
  let (fields, parts) := takePart "fields" parts
  let (defaults, parts) := takePart "defaults" parts
  let rules ← match fields with
    | none => pure []
    | some p => p.fields path
  let nested ← Build.schema (.mapping (rules.map fun (name, r) => (name, .rule r)))
    (argumentOf defaults)
  Build.object (some (.schema nested)) (← keywordsOf (common ++ remaining parts))

/-- The argument of an array's definition, a rule in the place of the definition of its elements. -/
def elementArgument (path name : Value) (p : Part) : Attempt Argument := do
  if name.sameKey (.text "of") && !p.argument.isNull then
    return .rule (← p.rule (← pathOf path "[]"))
  else return p.argument

/-- A definition of an array rule. -/
def arrayOf (path : Value) (common : List (Value × Argument)) (parts : Parts) : Attempt Rule := do
  let arguments ← parts.mapM fun (name, p) => do
    return (name, ← elementArgument path name p)
  Build.array (← keywordsOf (common ++ arguments))

/-- A definition of a custom rule. -/
def customOf (path : Value) (common : List (Value × Argument)) (parts : Parts) : Attempt Rule := do
  let (name, parts) := takePart "name" parts
  let name := argumentOf name
  if !name.isTruthy then throw (.definition (.definitionWithoutName (← path.textOf) path))
  Build.custom (some name) (← keywordsOf (common ++ remaining parts))

/-- A definition of a rule of a type. -/
def typedRule (ruleType : String) (path : Value) (common : List (Value × Argument))
    (parts : Parts) : Attempt Rule := do
  let plain (build : Keywords → Attempt Rule) : Attempt Rule := do
    build (← keywordsOf (common ++ remaining parts))
  match ruleType with
  | "string" => plain Build.text
  | "number" => plain Build.number
  | "boolean" => plain Build.boolean
  | "date" => plain Build.date
  | "object" => objectOf path common parts
  | "array" => arrayOf path common parts
  | "when" => wheneverOf path common parts
  | "custom" => customOf path common parts
  | _ => throw (.definition (.unknownRuleType ruleType (← path.textOf) path))

/-- The type that a definition names, the empty text if it names none. -/
def typeOf (part : Option Part) : Attempt Value :=
  match part with
  | none => pure (.text "")
  | some p => p.argument.needValue

/-- A rule from the parts of its definition.  Arguments that do not fit the type are a fault of the
definition. -/
def ruleOfParts (catalogue : Catalogue) (path : Value) (parts : Parts) : Attempt Rule := do
  let (type, parts) := takePart "type" parts
  let type ← typeOf type
  let ruleType := String.ofList (Text.lower (← type.textChars))
  let (common, parts) ← takeCommon catalogue parts
  match typedRule ruleType path common parts with
  | .ok r => return r
  | .error fault =>
    if fault.kind = "TypeError" then
      throw (.definition (.definitionOptions ruleType (← path.textOf) fault.message path))
    else throw fault

mutual

/-- The rule that an argument defines. -/
def ruleOf (catalogue : Catalogue) : Argument → Value → Attempt Rule
  | .mapping entries, path => ruleOfParts catalogue path (partsOf catalogue entries)
  | _, path => do throw (.definition (.definitionNotMapping (← path.textOf) path))

/-- The fields that an argument defines. -/
def fieldsOf (catalogue : Catalogue) : Argument → Value → Attempt (List (Value × Rule))
  | .mapping entries, path =>
    (partsOf catalogue entries).mapM fun (name, p) => do
      return (name, ← p.rule (← pathOf path ("." ++ (← name.textOf))))
  | _, path => do throw (.definition (.definitionFieldsNotMapping (← path.textOf) path))

/-- The arguments of a definition as parts. -/
def partsOf (catalogue : Catalogue) : List (Value × Argument) → Parts
  | [] => []
  | (name, a) :: rest =>
    (name, ⟨a, ruleOf catalogue a, fieldsOf catalogue a⟩) :: partsOf catalogue rest

end

/-! ## Schemas -/

/-- The path of a rule that is defined on its own. -/
def defaultPath : Value := .text "rule"

/-- The name of a schema that is given none. -/
def defaultName : Value := .text "unnamed_schema"

/-- The entry of a mapping under a name. -/
def entryOf (entries : List (Value × Argument)) (name : String) : Option Argument :=
  (entries.find? fun e => e.1.sameKey (.text name)).map (·.2)

/-- The schema that named arguments define. -/
def schemaOf (catalogue : Catalogue) (entries : List (Value × Argument)) : Attempt Schema := do
  let _ ← keywordsOf entries
  if (entryOf entries "self").isSome then
    refuse (.repeatedArgument "SchemaFactory.create" "self" false)
  let name ← ((entryOf entries "name").getD (.value defaultName)).needValue
  let _ ← name.textOf
  let fields := (entryOf entries "fields").getD .null
  let rules ← if fields.isTruthy then fieldsOf catalogue fields name else pure []
  Build.schema (.mapping (rules.map fun (n, r) => (n, .rule r)))
    ((entryOf entries "defaults").getD .null)

end RecordCheck.Definition
