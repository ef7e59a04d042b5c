import RecordCheck.Text.Case
import RecordCheck.Value.Integer

/-!
# Settings

The settings of a validation are whether values are converted, the timeout of hooks in milliseconds, and
how many units may work at one moment.  They are given by values of any kind and checked before use: a
truth value may be written as a word, and a number is any value that stands for a positive integer.
-/

set_option autoImplicit false

namespace RecordCheck

open Text

/-- Settings after they have been checked. -/
structure Settings where
  convert : Bool
  timeout : Nat
  maxConcurrency : Nat
  deriving DecidableEq, Repr

/-- Settings as they are given. -/
structure GivenSettings where
  convert : Value
  timeout : Value
  maxConcurrency : Value

namespace Settings

/-- The words that turn a setting on. -/
def trueWords : List String := ["true", "1", "yes", "on"]

/-- The words that turn a setting off. -/
def falseWords : List String := ["false", "0", "no", "off"]

/-- The truth value that a text stands for, in any case and with blanks around it. -/
def readWord (s : String) : Option Bool :=
  let word := String.ofList (lower (trim s.toList))
  if trueWords.contains word then some true
  else if falseWords.contains word then some false
  else none

/-- The truth value of a setting. -/
def readBoolean (key : String) (v : Value) : Attempt Bool :=
  match v with
  | .bool b => pure b
  | v =>
    match v.text?.bind readWord with
    | some b => pure b
    | none => do throw (.configuration (.notBoolean key (← v.shownText)))

/-- Whether a fault says that a value is no integer. -/
def isNoInteger (f : Fault) : Bool := f.kind = "TypeError" || f.kind = "ValueError"

/-- The positive integer of a setting. -/
def readPositive (key : String) (v : Value) : Attempt Nat :=
  match v.toInteger with
  | .error f => do
    if isNoInteger f then throw (.configuration (.notInteger key (← v.shownText))) else throw f
  | .ok n => do
    if v.isBool || n ≤ 0 then throw (.configuration (.notPositive key (← v.shownText)))
    else return n.toNat

/-- The names of the settings. -/
def names : List String := ["convert", "timeout", "max_concurrency"]

/-- Check settings, in their order. -/
def check (given : GivenSettings) : Attempt Settings := do
  let convert ← readBoolean "convert" given.convert
  let timeout ← readPositive "timeout" given.timeout
  let maxConcurrency ← readPositive "max_concurrency" given.maxConcurrency
  return ⟨convert, timeout, maxConcurrency⟩

/-- Settings given by values that pass the check. -/
def toGiven (s : Settings) : GivenSettings := ⟨.bool s.convert, .int s.timeout, .int s.maxConcurrency⟩

end Settings

namespace GivenSettings

/-- The settings where none are given: nothing is converted, a hook has five seconds, and ten units may
work at one moment. -/
def standard : GivenSettings := ⟨.bool false, .int 5000, .int 10⟩

/-- Settings with one of them replaced; another name changes nothing. -/
def set (given : GivenSettings) (name : String) (v : Value) : GivenSettings :=
  match name with
  | "convert" => { given with convert := v }
  | "timeout" => { given with timeout := v }
  | "max_concurrency" => { given with maxConcurrency := v }
  | _ => given

/-- Settings with those replaced that a mapping holds. -/
def setFrom (given : GivenSettings) (entries : Entries) : GivenSettings :=
  Settings.names.foldl
    (fun all name =>
      match entries.get? (.text name) with
      | some v => all.set name v
      | none => all) given

/-- The settings as they are written to the log. -/
def shown (given : GivenSettings) : Attempt (List String) := do
  return [← given.convert.textOf, ← given.timeout.textOf, ← given.maxConcurrency.textOf]

end GivenSettings

end RecordCheck
