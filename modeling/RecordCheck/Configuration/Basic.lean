import RecordCheck.Configuration.Settings
import RecordCheck.Custom.Registry
import RecordCheck.Rule.Argument

/-!
# Configurations

A configuration holds what a validation needs besides the record and the schema: the custom validators,
how errors are laid out and translated, and the settings that calls may override.
-/

set_option autoImplicit false

namespace RecordCheck

open Custom

/-- What a validation needs besides the record and the schema. -/
structure Configuration where
  registry : Registry
  formatter : Argument
  translator : Argument
  settings : GivenSettings

/-- Replacements for the settings of a configuration; a null one replaces nothing. -/
abbrev Overrides := Keywords

namespace Configuration

/-- The formatter where none is given. -/
def standardFormatter : Argument := .formatter Formatter.standard true

/-- The translator where none is given. -/
def standardTranslator : Argument := .translator Translator.identity true

/-- The configuration where nothing is given. -/
def standard : Configuration where
  registry := .empty Registry.defaultName
  formatter := standardFormatter
  translator := standardTranslator
  settings := .standard

/-- A configuration with its settings checked. -/
def check (c : Configuration) : Attempt Configuration := do
  return { c with settings := (← Settings.check c.settings).toGiven }

/-- A configuration with one part replaced, unchecked; another name changes nothing. -/
def set (c : Configuration) (name : String) (a : Argument) : Attempt Configuration :=
  match name with
  | "formatter" => pure { c with formatter := a }
  | "translator" => pure { c with translator := a }
  | name => do
    if Settings.names.contains name then
      return { c with settings := c.settings.set name (← a.needValue) }
    else return c

/-- The names of the arguments of a configuration. -/
def argumentNames : List String := ["registry", "formatter", "translator"] ++ Settings.names

/-- The configuration that arguments describe. -/
def ofKeywords (k : Keywords) : Attempt Configuration := do
  k.check "ValidatorConfig.__init__" none argumentNames
  let c ← k.foldlM (fun c e => c.set e.1 e.2) standard
  c.check

/-- A copy of a configuration with some parts replaced, checked again.  The custom validators are
shared. -/
def withOverrides (c : Configuration) (overrides : Overrides) : Attempt Configuration := do
  let c ← overrides.foldlM (fun c e => if e.2.isNull then pure c else c.set e.1 e.2) c
  c.check

/-- A configuration with a custom validator registered. -/
def register (c : Configuration) (name : Value) (candidate : Argument) (overwrite : Bool) :
    Attempt Configuration := do
  return { c with registry := ← c.registry.register name candidate.toCandidate overwrite }

/-! ## Reports -/

/-- The formatter that an argument is; one that is not true stands for the standard formatter. -/
def formatterOf (a : Argument) : Formatter :=
  match a with
  | .formatter f _ => f
  | a =>
    if a.isTruthy then fun _ => refuse (.notCallable a.operandName)
    else Formatter.standard

/-- The translator that an argument is; one that is not true stands for the standard translator. -/
def translatorOf (a : Argument) : Translator :=
  match a with
  | .translator t _ => t
  | a =>
    if a.isTruthy then fun _ _ _ => refuse (.notCallable a.operandName)
    else Translator.identity

/-- How a configuration makes error trees into payloads. -/
def aggregator (c : Configuration) : Aggregator :=
  ⟨formatterOf c.formatter, translatorOf c.translator⟩

/-- Whether a configuration lays errors out in the standard way. -/
def hasStandardFormatter (c : Configuration) : Bool :=
  match c.formatter with
  | .formatter _ isStandard => isStandard
  | _ => false

/-- Whether a configuration keeps every message. -/
def hasStandardTranslator (c : Configuration) : Bool :=
  match c.translator with
  | .translator _ isStandard => isStandard
  | _ => false

end Configuration

end RecordCheck
