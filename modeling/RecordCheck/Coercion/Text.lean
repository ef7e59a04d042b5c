import RecordCheck.Outcome
import RecordCheck.Rule.Condition

/-!
# Texts under a rule

A text rule takes texts.  Where values are converted it takes numbers too, written out, and blanks are
collapsed.  The checks are on the number of characters, on a pattern, and on the form of an email
address.
-/

set_option autoImplicit false

namespace RecordCheck.Coercion

open Text

/-! ## Email addresses -/

/-- One or more characters that are neither blanks nor at signs. -/
def emailPart : Regex.Node :=
  .repetition .greedy 1 none [.set [.category .space false, .code '@'.toNat] true]

/-- The pattern of email addresses: three parts, an at sign after the first and a point after the second. -/
def emailPattern : Regex.Pattern :=
  ⟨"^[^\\s@]+@[^\\s@]+\\.[^\\s@]+$", [],
    [.anchor .lineStart, emailPart, .code '@'.toNat false, emailPart, .code '.'.toNat false, emailPart,
      .anchor .lineEnd]⟩

/-- Whether a text is an email address, by the pattern of these. -/
def isEmail (s : List Char) : Bool := (emailPattern.matchAt? (.start s)).isSome

/-! ## Texts -/

/-- The text of a value under a text rule, before blanks are collapsed. -/
def textOf? (convert : Bool) (value : Value) : Option Value :=
  if value.isText then some value
  else if convert then value.number?.bind fun n => n.text?.map .ofChars
  else none

/-- The text of a value with its blanks collapsed. -/
def collapsed (value : Value) : Value := .ofChars (collapse ((value.text?.getD "").toList))

/-- A value as a text. -/
def ensureText (required convert : Bool) (value : Value) : Attempt Outcome :=
  match textOf? convert value with
  | none => Outcome.rejectFor value .string []
  | some s =>
    if !convert then pure (.accept s)
    else
      let s := collapsed s
      if required && s.isBlank then Outcome.rejectFor s .required []
      else pure (.accept s)

/-- An entry if a limit is given and a size is on the wrong side of it. -/
def limitEntry (relation : Comparison) (size limit : Value) (code : Code) (detail : String) :
    Attempt (List Entry) := do
  if limit.isNull then return []
  if ← size.compareWith relation limit then
    return [← Entry.ofCode code [(.text detail, limit)]]
  else return []

/-- The source of a pattern. -/
def patternSource : Value → Value
  | .pattern p => .text p.source
  | v => v

/-- An entry if a pattern is given and not found. -/
def patternEntry (pattern : Value) (text : String) : Attempt (List Entry) := do
  if pattern.isNull then return []
  if ← findsPattern pattern text then return []
  else return [← Entry.ofCode .stringPattern [(.text "pattern", patternSource pattern)]]

/-- An entry if an email address is asked for and not given. -/
def emailEntry (email : Value) (text : String) : Attempt (List Entry) := do
  if email.isTruthy && !isEmail text.toList then return [← Entry.ofCode .stringEmail []]
  else return []

/-- Every constraint that a text violates. -/
def checkText (checks : TextChecks) (text : String) : Attempt (List Entry) := do
  let size := Value.int text.length
  let low ← limitEntry .less size checks.min .stringMin "min"
  let high ← limitEntry .greater size checks.max .stringMax "max"
  let pattern ← patternEntry checks.pattern text
  return low ++ high ++ pattern ++ (← emailEntry checks.email text)

end RecordCheck.Coercion
