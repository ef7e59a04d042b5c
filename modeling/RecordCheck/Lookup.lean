import RecordCheck.Value.Equality

/-!
# Finding fields in a record

A schema declares one name per field.  A record may hold the field under that name or under a key that
spells it otherwise: a member of an enumeration whose body is the name, or the name as bytes.  The
declared spelling is preferred to any other.
-/

set_option autoImplicit false

namespace RecordCheck

/-- The name that a key spells, if it spells one. -/
def Value.spelling? : Value → Option String
  | .text s | .textMember s => some s
  | .bytes b => String.fromUTF8? ⟨b.toArray⟩
  | .member body => body.text?
  | _ => none

/-- The spelling of a key as a value, null if it spells no name. -/
def Value.spelling (key : Value) : Value :=
  match key.spelling? with
  | some name => .text name
  | none => .null

namespace Entries

/-- The entry for a name: under the name itself, else the first one whose key spells it. -/
def lookup (record : Entries) (name : Value) : Option (Value × Value) :=
  match record.get? name with
  | some value => some (name, value)
  | none => List.find? (fun e => e.1.spelling.sameKey name) record

/-- The entry for a name, unless its value is blank. -/
def resolve (record : Entries) (name : Value) : Option (Value × Value) :=
  (record.lookup name).filter fun found => !found.2.isBlank

/-- The value for a name, null if there is none. -/
def peek (record : Entries) (name : Value) : Value :=
  ((record.lookup name).map (·.2)).getD .null

/-- The record with an entry added for every default whose name it does not hold. -/
def withDefaults (record defaults : Entries) : Entries :=
  defaults.foldl
    (fun merged d => if (record.lookup d.1).isNone then merged.put d.1 d.2 else merged) record

end Entries

end RecordCheck
