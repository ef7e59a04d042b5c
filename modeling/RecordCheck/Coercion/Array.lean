import RecordCheck.Coercion.Text

/-!
# Arrays under a rule

An array rule takes lists and tuples.  Where values are converted it takes a text too, as its trimmed
parts between delimiters, empty parts left out.  The checks are on the number of items and on their being
distinct; a truth value and a number are always distinct items.
-/

set_option autoImplicit false

namespace RecordCheck.Coercion

open Text

/-- The parts of a text between delimiters, trimmed, empty ones left out. -/
def splitParts (delimiter s : List Char) : List Value :=
  (((splitOn delimiter s).map trim).filter (!·.isEmpty)).map .ofChars

/-- A value as a list. -/
def ensureArray (delimiter : Value) (convert : Bool) (value : Value) : Attempt Outcome :=
  match value with
  | .list items | .tuple items => pure (.accept (.list items))
  | _ =>
    match value.text?, convert with
    | some s, true =>
      match delimiter.text? with
      | some d => pure (.accept (.list (splitParts d.toList s.toList)))
      | none => refuse (.badDelimiter delimiter.operandName)
    | _, _ => Outcome.rejectFor value .array []

/-- Whether two items are the same. -/
def sameItem (a b : Value) : Attempt Bool :=
  if a.isBool != b.isBool then pure false else a.same b

/-- Whether one of some items occurs among items seen before or twice among themselves. -/
def hasDuplicatesAfter (seen : List Value) : List Value → Attempt Bool
  | [] => pure false
  | item :: rest => do
    if ← seen.anyM (sameItem item ·) then return true
    else hasDuplicatesAfter (seen ++ [item]) rest

/-- Whether an item occurs twice. -/
def hasDuplicates (items : List Value) : Attempt Bool := hasDuplicatesAfter [] items

/-- An entry if distinct items are asked for and not given. -/
def uniqueEntry (unique : Value) (items : List Value) : Attempt (List Entry) := do
  if unique.isTruthy then
    if ← hasDuplicates items then return [← Entry.ofCode .arrayUnique []]
  return []

/-- Every constraint that a list violates. -/
def checkArray (checks : ArrayChecks) (items : List Value) : Attempt (List Entry) := do
  let size := Value.int items.length
  let low ← limitEntry .less size checks.minItems .arrayMinItems "min"
  let high ← limitEntry .greater size checks.maxItems .arrayMaxItems "max"
  return low ++ high ++ (← uniqueEntry checks.unique items)

end RecordCheck.Coercion
