import RecordCheck.Custom.Validator
import RecordCheck.Duration
import RecordCheck.Report.Payload
import RecordCheck.Text.Case
import RecordCheck.Value.Integer
import RecordCheck.Value.Membership

/-!
# Scripted functions

Small checks, formatters and translators that are described by data rather than written as functions.  A
scripted check serves as a custom validator or, with pauses, as a hook.
-/

set_option autoImplicit false

namespace RecordCheck.Script

open Custom Text

/-! ## Checks -/

/-- What a scripted check does with the value, and with the context and rule if it is given them. -/
inductive Behaviour where
  | nothing
  | answer (value : Value)
  | succeed (value : Value)
  | fail (value : Option Value) (errors : Value)
  | raise (kind : RaisedKind) (message : Option String)
  | upper
  | double
  | even
  | maxLength
  | taken
  | seeContext
  | seeRule
  | seeCount

/-- A result that accepts a value. -/
def success (value : Value) : Value := .result true value (.list [])

/-- A result that rejects a value. -/
def failure (value : Value) (errors : List Value) : Value := .result false value (.list errors)

/-- A decimal result, or the fault for its condition. -/
def decided {α : Type} (r : Except Number.DecimalCondition α) : Attempt α :=
  match r with
  | .ok a => pure a
  | .error condition => refuse (.decimal condition)

/-- Twice a value: numbers are doubled, sequences repeated. -/
def doubled : Value → Attempt Value
  | .bool b => pure (.int (if b then 2 else 0))
  | .number n => .number <$> decided n.double
  | .text s | .textMember s => pure (.text (s ++ s))
  | .bytes b => pure (.bytes (b ++ b))
  | .list items => pure (.list (items ++ items))
  | .tuple items => pure (.tuple (items ++ items))
  | v => refuse (.badOperands "*" v.operandName "int")

/-- Whether a value is divisible by two.  A text is not divided but taken as a layout for numbers, of
which it must use one. -/
def isEven : Value → Attempt Bool
  | .bool b => pure !b
  | .number n => decided n.isEven
  | .text s | .textMember s =>
    if s.toList.contains '%' then pure false else refuse (.leftoverArguments true)
  | .bytes b => if b.contains 37 then pure false else refuse (.leftoverArguments false)
  | v => refuse (.badOperands "%" v.operandName "int")

/-- A text or bytes in lower case. -/
def lowered : Value → Attempt Value
  | .text s | .textMember s => pure (.ofChars (lower s.toList))
  | .bytes b => pure (.bytes (b.map fun x => if 65 ≤ x ∧ x ≤ 90 then x + 32 else x))
  | v => refuse (.noMember v.operandName "lower")

/-- The context that a check received. -/
def contextOf (r : Received) (member : String) : Attempt Context :=
  match r.context with
  | some c => pure c
  | none => refuse (.noMember "NoneType" member)

/-- The rule that a check received. -/
def requestOf (r : Received) (member : String) : Attempt Request :=
  match r.request with
  | some q => pure q
  | none => refuse (.noMember "NoneType" member)

/-- Reject a value that is too long for the rule's option, else lower its case. -/
def checkLength (r : Received) : Attempt Value := do
  let request ← requestOf r "options"
  let limit := (request.options.get? (.text "max_length")).getD (.int 3)
  if ← (Value.int (← r.value.length)).compareWith .greater limit then
    return failure r.value [.dict [(.text "code", .text "too_long"),
      (.text "message", .text ("longer than " ++ (← limit.textOf))),
      (.text "meta", .dict [(.text "max_length", limit)])]]
  else return success (← lowered r.value)

/-- Reject a value that the options of the context list as taken. -/
def checkTaken (r : Received) : Attempt Value := do
  let context ← contextOf r "options"
  let taken := (context.options.get? (.text "taken")).getD (.tuple [])
  if ← taken.contains r.value then
    return failure r.value [.entry (.text "username_taken") (.text "is already taken") []]
  else return .null

/-- The context as a value. -/
def shownContext (c : Context) : Value :=
  .dict [(.text "data", .dict c.data), (.text "convert", .bool c.convert),
    (.text "options", .dict c.options)]

/-- What a scripted check answers. -/
def Behaviour.run (b : Behaviour) (r : Received) : Attempt Value :=
  match b with
  | nothing => pure .null
  | answer value => pure value
  | succeed value => pure (success value)
  | fail value errors => pure (.result false (value.getD r.value) errors)
  | raise kind message => throw (.raised kind message)
  | upper =>
    match r.value.text? with
    | some s => pure (success (.ofChars (Text.upper s.toList)))
    | none => pure (failure r.value [.text "not a string"])
  | double => success <$> doubled r.value
  | even => do
    if ← isEven r.value then return .bool true
    else return failure r.value [.text "must be even"]
  | maxLength => checkLength r
  | taken => checkTaken r
  | seeContext => do return success (shownContext (← contextOf r "data"))
  | seeRule => do
    let request ← requestOf r "type_name"
    return success (.list [request.typeName, .dict request.options, request.required])
  | seeCount => pure (success (.int r.count))

/-- Answer with the integer that the value stands for. -/
def toInteger (r : Received) : Attempt Value := .int <$> r.value.toInteger

/-! ## Hooks -/

/-- The pauses of a scripted hook, in order: times that it lets others proceed, a sleep, and a sleep as
long as its value says. -/
structure Timing where
  yields : Nat
  sleep : Option Value
  sleepsValue : Bool

/-- The sleep for a duration. -/
def sleepFor (d : Duration) : Pause :=
  match d with
  | .finite ms => .sleep ms
  | .infinite false => .sleep (Nat.pow 2 1024)
  | .infinite true | .undefined => .sleep 0

/-- The pause for a number of milliseconds.  A decimal that is not positive makes no sleep, so that it
need not be added to a reading of the clock. -/
def pauseOf (v : Value) : Attempt Pause :=
  match v with
  | .number (.decimal d) =>
    if d.isNaN then refuse (.decimal .invalidOperation)
    else if d.isPositive then sleepFor <$> Duration.ofDecimal d
    else pure .yield
  | v => sleepFor <$> Duration.ofValue v

/-- Pauses, one after the other, up to the first that has no duration. -/
def pausesOf : List Value → List Pause × Option Fault
  | [] => ([], none)
  | v :: rest =>
    match pauseOf v with
    | .error fault => ([], some fault)
    | .ok p => let (pauses, fault) := pausesOf rest; (p :: pauses, fault)

/-- A hook that pauses and then does what a scripted check does. -/
def Behaviour.toHook (b : Behaviour) (t : Timing) : Hook := fun value context =>
  let (pauses, fault) := pausesOf (t.sleep.toList ++ if t.sleepsValue then [value] else [])
  .interruptible (List.replicate t.yields .yield ++ pauses) <| match fault with
    | some f => throw f
    | none => b.run ⟨value, some context, none, 2⟩

/-! ## Formatters and translators -/

/-- The tree under a name, beside other entries. -/
def underName (before : Entries) (name : String) (t : ErrorTree) : Attempt Formatted :=
  pure ⟨.dict (before ++ [(.text name, ErrorTree.toDict t)]), true, ErrorTree.toDict t⟩

/-- The names at the top of a tree. -/
def topNames : ErrorTree → List Value
  | .leaf _ => []
  | .node children => children.map (·.1)

/-- The tree without its first child. -/
def withoutFirst : ErrorTree → ErrorTree
  | .leaf entries => .leaf entries
  | .node children => .node (children.drop 1)

/-- A formatter by name. -/
def formatter? : String → Option Formatter
  | "details" => some (underName [(.text "status", .text "error")] "details")
  | "keys" => some fun t => do
    return ⟨.list (← (topNames t).mapM fun k => .text <$> k.textOf), false, ErrorTree.toDict t⟩
  | "none" => some fun t => pure ⟨.null, false, ErrorTree.toDict t⟩
  | "text" => some fun t =>
    pure ⟨.text (toString (topNames t).length ++ " bad"), false, ErrorTree.toDict t⟩
  | "same" => some fun t => pure ⟨ErrorTree.toDict t, true, ErrorTree.toDict t⟩
  | "pop_first" => some fun t => underName [] "errors" (withoutFirst t)
  | "preset" => some fun t =>
    pure ⟨.dict [(.text Aggregator.flatKey, .text "mine"),
      (.text "n", .int (topNames t).length)], true, ErrorTree.toDict t⟩
  | "proxy" => some fun t =>
    pure ⟨.dict [(.text "errors", ErrorTree.toDict t)], false, ErrorTree.toDict t⟩
  | "raise" => some fun _ => throw (.raised (.plain "ValueError") (some "formatter failed"))
  | _ => none

/-- Details as text: names and values, joined by commas. -/
def detailsText (details : Entries) : Attempt String := do
  let parts ← details.mapM fun (name, value) => do
    return (← name.textOf) ++ "=" ++ (← value.textOf)
  return ",".intercalate parts

/-- A translator by name. -/
def translator? : String → Option Translator
  | "bang" => some fun code _ _ =>
    match code.text? with
    | some s => pure (.text (s ++ "!"))
    | none => refuse (.badOperands "+" code.operandName "str")
  | "upper" => some fun _ message _ =>
    match message.text? with
    | some s => pure (.ofChars (Text.upper s.toList))
    | none => refuse (.noMember message.operandName "upper")
  | "meta" => some fun code message details => do
    return .text ((← code.textOf) ++ "|" ++ (← message.textOf) ++ "|" ++ (← detailsText details))
  | "none" => some fun _ _ _ => pure .null
  | "raise" => some fun code message _ =>
    if code.text? = some Code.required.name then
      throw (.raised (.plain "KeyError") (some Code.required.name))
    else pure message
  | _ => none

end RecordCheck.Script
