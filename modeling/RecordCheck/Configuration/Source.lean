import RecordCheck.Catalogue
import RecordCheck.Configuration.Basic
import RecordCheck.Document.Json
import RecordCheck.Document.Yaml

/-!
# Sources of configurations

A configuration can be read from a mapping or from a file that holds one.  Variables of the environment
override the settings in it.  Validators, the formatter and the translator may be given by their import
paths.
-/

set_option autoImplicit false

namespace RecordCheck.Configuration

/-- Variables and their values. -/
abbrev Environment := List (String × String)

/-- The variable that overrides a setting. -/
def variableOf : String → String
  | "convert" => "DATAKNOBS_SCHEMA_CONVERT"
  | "timeout" => "DATAKNOBS_SCHEMA_TIMEOUT"
  | _ => "DATAKNOBS_SCHEMA_MAX_CONCURRENCY"

/-- The settings that an environment overrides. -/
def environmentOverrides (environment : Environment) : Entries :=
  Settings.names.filterMap fun name =>
    (environment.lookup (variableOf name)).map fun s => (.text name, .text s)

/-! ## Mappings -/

/-- The names that a mapping may hold. -/
def knownKeys : List String := Settings.names ++ ["custom_types", "formatter", "translator"]

/-- Whether a name is known. -/
def isKnown (key : Value) : Bool := knownKeys.any fun name => key.sameKey (.text name)

/-- Values in order with another one, after those that it is not less than. -/
def insertInOrder (v : Value) : List Value → Attempt (List Value)
  | [] => pure [v]
  | w :: rest => do
    if ← v.compareWith .less w then return v :: w :: rest
    else return w :: (← insertInOrder v rest)

/-- Values in order. -/
def inOrder (values : List Value) : Attempt (List Value) :=
  values.foldlM (fun sorted v => insertInOrder v sorted) []

/-- Texts joined, the first of them being at an index. -/
def joinTexts (index : Nat) : List Value → Attempt (List String)
  | [] => pure []
  | v :: rest =>
    match v.text? with
    | some s => do return s :: (← joinTexts (index + 1) rest)
    | none => refuse (.joinItem index v.operandName)

/-- Refuse a mapping with names that are not known. -/
def checkKeys (keys : List Value) : Attempt Unit := do
  let unknown := keys.filter fun key => !isKnown key
  if !unknown.isEmpty then
    let sorted ← inOrder unknown
    let joined := ", ".intercalate (← joinTexts 0 sorted)
    throw (.configuration (.unknownKeys joined sorted))

/-- The argument under a name, null if there is none. -/
def argumentAt (entries : List (Value × Argument)) (name : String) : Argument :=
  ((entries.find? fun e => e.1.sameKey (.text name)).map (·.2)).getD .null

/-- The settings that a mapping holds. -/
def settingsIn (entries : List (Value × Argument)) : Attempt Entries := do
  let held := Settings.names.filterMap fun name =>
    (entries.find? fun e => e.1.sameKey (.text name)).map fun e => (name, e.2)
  held.mapM fun (name, a) => do return (.text name, ← a.needValue)

/-- The custom validators that a mapping names. -/
def customTypes (a : Argument) : Attempt (List (Value × Argument)) :=
  if a.isTruthy then
    match a.entries? with
    | some entries => pure entries
    | none => refuse (.noMember a.operandName "items")
  else pure []

/-- The configuration that a mapping describes. -/
def ofEntries (catalogue : Catalogue) (environment : Environment)
    (entries : List (Value × Argument)) : Attempt Configuration := do
  checkKeys (entries.map (·.1))
  let given := (GivenSettings.standard.setFrom (← settingsIn entries)).setFrom
    (environmentOverrides environment)
  let c ← { standard with settings := given }.check
  let formatter := argumentAt entries "formatter"
  let c ← if formatter.isTruthy then
      pure { c with formatter := ← catalogue.resolve formatter }
    else pure c
  let translator := argumentAt entries "translator"
  let c ← if translator.isTruthy then
      pure { c with translator := ← catalogue.resolve translator }
    else pure c
  let c ← (← customTypes (argumentAt entries "custom_types")).foldlM
    (fun c e => do c.register e.1 (← catalogue.resolve e.2) false) c
  -- What was made is written to the log, with the names of the validators.
  let _ ← c.settings.shown
  let _ ← (Value.list c.registry.names).textOf
  return c

/-- The configuration that an argument describes, which must be a mapping. -/
def ofArgument (catalogue : Catalogue) (environment : Environment) (a : Argument) :
    Attempt Configuration :=
  match a.entries? with
  | some entries => ofEntries catalogue environment entries
  | none => refuse (.notIterable a.operandName)

/-! ## Files -/

/-- The suffix of a file name, with the point before it: from the last point on, unless that is the
first or the last character. -/
def suffixOf (name : List Char) : List Char :=
  let after := name.reverse.takeWhile (· != '.')
  let before := (name.reverse.drop (after.length + 1)).reverse
  if after.isEmpty || before.isEmpty then [] else '.' :: after.reverse

/-- A text with every end of a line written as a single line feed. -/
def plainLines : List Char → List Char
  | '\r' :: '\n' :: rest => '\n' :: plainLines rest
  | '\r' :: rest => '\n' :: plainLines rest
  | c :: rest => c :: plainLines rest
  | [] => []

/-- The value that a document in the format of a suffix denotes. -/
def readDocument (suffix path : String) (text : List Char) : Attempt Value :=
  if suffix = ".yaml" ∨ suffix = ".yml" then pure (Yaml.parse text)
  else if suffix = ".json" then Json.parse text
  else throw (.configuration (.unsupportedFormat suffix path))

/-- The configuration that a file describes; `text` is what it holds, if it exists. -/
def ofFile (catalogue : Catalogue) (environment : Environment) (name path : String)
    (text : Option String) : Attempt Configuration :=
  match text with
  | none => throw (.configuration (.fileNotFound path))
  | some text => do
    let suffix := String.ofList (Text.lower (suffixOf name.toList))
    match ← readDocument suffix path (plainLines text.toList) with
    | .null => ofEntries catalogue environment []
    | .dict entries => ofEntries catalogue environment (Argument.ofEntries entries)
    | _ => throw (.configuration (.fileNotMapping path))

end RecordCheck.Configuration
