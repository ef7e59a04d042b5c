import RecordCheck.Value.Text

/-!
# Error entries

An error entry has a code, a message and details.  Each code that the library itself reports has a
message with at most one blank in it, which is filled with a detail; where that detail is missing the
message stands with its blank named.  Any other code reads as its own message.
-/

set_option autoImplicit false

namespace RecordCheck

/-- The codes that the library itself reports. -/
inductive Code where
  | required
  | invalidData
  | string
  | stringMin
  | stringMax
  | stringPattern
  | stringEmail
  | number
  | numberMin
  | numberMax
  | numberInteger
  | boolean
  | date
  | object
  | array
  | arrayMinItems
  | arrayMaxItems
  | arrayUnique
  | customType
  | asyncTimeout
  | asyncError
  deriving DecidableEq, Repr

namespace Code

/-- Every code. -/
def all : List Code :=
  [required, invalidData, string, stringMin, stringMax, stringPattern, stringEmail, number, numberMin,
   numberMax, numberInteger, boolean, date, object, array, arrayMinItems, arrayMaxItems, arrayUnique,
   customType, asyncTimeout, asyncError]

/-- The name of a code. -/
def name : Code → String
  | required => "required"
  | invalidData => "invalid_data"
  | string => "string"
  | stringMin => "string_min"
  | stringMax => "string_max"
  | stringPattern => "string_pattern"
  | stringEmail => "string_email"
  | number => "number"
  | numberMin => "number_min"
  | numberMax => "number_max"
  | numberInteger => "number_integer"
  | boolean => "boolean"
  | date => "date"
  | object => "object"
  | array => "array"
  | arrayMinItems => "array_min_items"
  | arrayMaxItems => "array_max_items"
  | arrayUnique => "array_unique"
  | customType => "custom_type"
  | asyncTimeout => "async_timeout"
  | asyncError => "async_error"

/-- The code of a name. -/
def ofName? (s : String) : Option Code := all.find? fun c => c.name == s

end Code

/-- A message with at most one blank: what stands before it, the detail that fills it, and what stands
after it. -/
structure Template where
  before : String
  detail : Option String
  after : String

namespace Template

/-- A message without a blank. -/
def plain (s : String) : Template := ⟨s, none, ""⟩

/-- A message with its blank named. -/
def unfilled (t : Template) : String :=
  t.before ++ (match t.detail with | none => "" | some d => "\x7b" ++ d ++ "\x7d") ++ t.after

/-- A message with its blank filled from details. -/
def fill (t : Template) (details : Entries) : Attempt String :=
  match t.detail with
  | none => pure t.unfilled
  | some d =>
    match details.get? (.text d) with
    | none => pure t.unfilled
    | some v => do return t.before ++ (← v.textOf) ++ t.after

end Template

/-- The message of a code. -/
def Code.template : Code → Template
  | .required => .plain "is required"
  | .invalidData => .plain "data must be a mapping"
  | .string => .plain "must be a string"
  | .stringMin => ⟨"must be at least ", some "min", " characters"⟩
  | .stringMax => ⟨"must be at most ", some "max", " characters"⟩
  | .stringPattern => .plain "does not match the required pattern"
  | .stringEmail => .plain "must be a valid email"
  | .number => .plain "must be a number"
  | .numberMin => ⟨"must be greater than or equal to ", some "min", ""⟩
  | .numberMax => ⟨"must be less than or equal to ", some "max", ""⟩
  | .numberInteger => .plain "must be an integer"
  | .boolean => .plain "must be a boolean"
  | .date => .plain "must be a valid ISO8601 date"
  | .object => .plain "must be an object"
  | .array => .plain "must be an array"
  | .arrayMinItems => ⟨"must contain at least ", some "min", " items"⟩
  | .arrayMaxItems => ⟨"must contain at most ", some "max", " items"⟩
  | .arrayUnique => .plain "must contain unique items"
  | .customType => ⟨"unknown custom type ", some "type", ""⟩
  | .asyncTimeout => ⟨"validation timed out after ", some "timeout", "ms"⟩
  | .asyncError => ⟨"async validation failed: ", some "reason", ""⟩

/-! ## Messages of any code -/

/-- A code read as a message: underscores become spaces. -/
def spelledOut (code : String) : String :=
  String.ofList (code.toList.map fun c => if c = '_' then ' ' else c)

/-- The message of a code that is not one of the library's own. -/
def foreignMessage (code : Value) : Attempt String :=
  match code with
  | .text s | .textMember s => pure (spelledOut s)
  | .bytes _ => refuse (.notBytes "str")
  | .date _ | .dateTime _ => refuse (.notInteger "str")
  | v => refuse (.noMember v.operandName "replace")

/-- The details that a value gives; one that counts as false gives none. -/
def detailsOf (details : Value) : Attempt Entries :=
  if !details.isTruthy then pure []
  else match details with
    | .dict entries => pure entries
    | v => refuse (.formatArguments v.operandName)

/-- The message of a code with details. -/
def defaultMessage (code details : Value) : Attempt String := do
  code.checkKey
  match code.text?.bind Code.ofName? with
  | none => foreignMessage code
  | some c => c.template.fill (← detailsOf details)

/-! ## Entries -/

/-- A single error: its code, its message and its details. -/
structure Entry where
  code : Value
  message : Value
  details : Entries
  deriving Inhabited

namespace Entry

/-- An entry for one of the library's own codes. -/
def ofCode (code : Code) (details : Entries) : Attempt Entry := do
  return ⟨.text code.name, .text (← code.template.fill details), details⟩

/-- An entry with the message of its code. -/
def of (code : Value) (details : Entries) : Attempt Entry := do
  return ⟨code, .text (← defaultMessage code (.dict details)), details⟩

/-- An entry as a value. -/
def toValue (e : Entry) : Value := .entry e.code e.message e.details

/-- The entry that a value is, if it is one. -/
def ofValue? : Value → Option Entry
  | .entry code message details => some ⟨code, message, details⟩
  | _ => none

/-- An entry as a mapping. -/
def toDict (e : Entry) : Value :=
  .dict [(.text "code", e.code), (.text "message", e.message), (.text "meta", .dict e.details)]

end Entry

/-- Refuse details that cannot be named arguments beside a code: names are texts, and two of them are
taken. -/
def checkDetailNames (details : Entries) : Attempt Unit := do
  if details.any fun d => !d.1.isText then refuse .keywordsNotText
  match List.find? (fun d => d.1.text? == some "cls" || d.1.text? == some "code") details with
  | some (name, _) => refuse (.repeatedArgument "ErrorEntry.of" (name.text?.getD "") false)
  | none => pure ()

/-- An entry made from a code and named details. -/
def Entry.ofNamed (code : Value) (details : Entries) : Attempt Entry := do
  checkDetailNames details
  of code details

end RecordCheck
