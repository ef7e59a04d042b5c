import RecordCheck.Lookup
import RecordCheck.Report.Tree

/-!
# Outcomes

The outcome of validating a value: it is accepted, perhaps in another form, or rejected with a tree of
errors.  A custom validator may leave notes on a value that it accepts; the library itself leaves none.
-/

set_option autoImplicit false

namespace RecordCheck

/-- What validating a value came to. -/
inductive Outcome where
  | accepted (value notes : Value)
  | rejected (value : Value) (errors : ErrorTree)
  deriving Inhabited

namespace Outcome

/-- A value accepted without notes. -/
def accept (value : Value) : Outcome := .accepted value (.list [])

/-- A value rejected for some errors at its own place. -/
def reject (value : Value) (errors : List Entry) : Outcome := .rejected value (.leaf errors)

/-- A value rejected for a single error. -/
def rejectFor (value : Value) (code : Code) (details : Entries) : Attempt Outcome := do
  return reject value [← Entry.ofCode code details]

/-- Whether a value is accepted. -/
def isAccepted : Outcome → Bool
  | accepted .. => true
  | rejected .. => false

/-- The value of an outcome. -/
def value : Outcome → Value
  | accepted value _ | rejected value _ => value

/-- The errors of a rejected value. -/
def errors? : Outcome → Option ErrorTree
  | accepted .. => none
  | rejected _ errors => some errors

/-- The errors of an outcome as a value: the notes on an accepted value, else the tree. -/
def errorsValue : Outcome → Value
  | accepted _ notes => notes
  | rejected _ errors => errors.toValue fun entries => .list (entries.map Entry.toValue)

end Outcome

/-- The outcome of a field that the record does not hold: an error if it is required. -/
def Outcome.absent (required : Bool) : Attempt Outcome :=
  if required then rejectFor .null .required [] else pure (accept .null)

/-! ## Outcomes of records and arrays -/

/-- The errors of the fields that were rejected, by name. -/
def errorsOfFields : List (Value × Outcome) → List (Value × ErrorTree)
  | [] => []
  | (name, outcome) :: rest =>
    match outcome.errors? with
    | some errors => (name, errors) :: errorsOfFields rest
    | none => errorsOfFields rest

/-- The record with the value of a field replaced, under the key that the record has for it, if it was
accepted.  A field that the data under validation do not hold is passed over. -/
def recordWithField (data record : Entries) (name : Value) (outcome : Outcome) : Entries :=
  match data.resolve name, outcome with
  | some (key, _), .accepted value _ => record.put key value
  | _, _ => record

/-- The record with the values of the fields that were accepted. -/
def recordOfFields (data : Entries) (fields : List (Value × Outcome)) : Entries :=
  fields.foldl (fun record f => recordWithField data record f.1 f.2) data

/-- The outcome of a record from the outcomes of its fields: the errors of all fields that were
rejected, or the record with the accepted values. -/
def mergeFields (data : Entries) (fields : List (Value × Outcome)) : Outcome :=
  match errorsOfFields fields with
  | [] => .accept (.dict (recordOfFields data fields))
  | errors => .rejected (.dict data) (.node errors)

/-- The errors of the elements that were rejected, by index from a first one on. -/
def errorsOfElements (first : Nat) : List Outcome → List (Value × ErrorTree)
  | [] => []
  | o :: rest =>
    match o.errors? with
    | some errors => (.int first, errors) :: errorsOfElements (first + 1) rest
    | none => errorsOfElements (first + 1) rest

/-- The outcome of an array from the outcomes of its elements. -/
def mergeElements (items : List Value) (elements : List Outcome) : Outcome :=
  match errorsOfElements 0 elements with
  | [] => .accept (.list (elements.map Outcome.value))
  | errors => .rejected (.list items) (.node errors)

/-- The key under which errors of a record as a whole are reported. -/
def wholeRecordKey : String := "_schema"

/-- The outcome of something that should be a record and is no mapping. -/
def notARecord (data : Value) : Attempt Outcome := do
  return .rejected data (.node [(.text wholeRecordKey, .leaf [← Entry.ofCode .invalidData []])])

end RecordCheck
