import RecordCheck.Outcome

/-!
# Answers of custom validators and hooks

A custom validator or hook answers with nothing or `true` to accept the value, or with a result that
accepts another value or rejects it with errors.  Errors are texts, entries or mappings, one of them or
several; each becomes an entry, and no error at all becomes one for the default code.  Any other answer
is a mistake of the validator.
-/

set_option autoImplicit false

namespace RecordCheck.Custom

/-- The entry that a mapping describes, with a default code. -/
def entryOfDict (code : Value) (item : Entries) : Attempt Entry := do
  let code := (item.get? (.text "code")).getD code
  let details := (item.get? (.text "meta")).getD .null
  let details := if details.isTruthy then details else .dict []
  let message := (item.get? (.text "message")).getD .null
  let message ← if message.isTruthy then pure message else .text <$> defaultMessage code details
  return ⟨code, message, ← details.toEntries⟩

/-- The entry that an error is, with a default code. -/
def toEntry (code : Value) (item : Value) : Attempt Entry :=
  match item with
  | .entry code message details => pure ⟨code, message, details⟩
  | .text _ | .textMember _ => pure ⟨code, item, []⟩
  | .dict entries => entryOfDict code entries
  | v => do throw (.validator (.unsupportedItem v.kindName (← v.shownText)))

/-- The errors that a result holds: a text, entry or mapping is a single one. -/
def errorItems (errors : Value) : Attempt (List Value) :=
  match errors with
  | .text _ | .textMember _ | .entry .. | .dict _ => pure [errors]
  | v => if v.isTruthy then v.items else pure []

/-- The outcome that an answer stands for. -/
def normalize (answer value code : Value) : Attempt Outcome :=
  match answer with
  | .null | .bool true => pure (.accept value)
  | .result true value notes => pure (.accepted value notes)
  | .result false value errors => do
    match ← (← errorItems errors).mapM (toEntry code) with
    | [] => return .reject value [⟨code, .text (← defaultMessage code .null), []⟩]
    | entries => return .reject value entries
  | v => do throw (.validator (.unsupportedResult v.kindName (← v.shownText)))

end RecordCheck.Custom
