import RecordCheck.Proofs.Attempt
import RecordCheck.Rule.Build

/-!
# What the builders of rules yield

Which rule each builder yields from its arguments.  Each statement says all that the builder asks of the
arguments, so that it also tells what is known of a rule that was built.
-/

set_option autoImplicit false

namespace RecordCheck

open Attempt

/-! ## Arguments that are values -/

namespace Argument

mutual

/-- The argument that a value is stands for that value. -/
@[simp] theorem needValue_ofValue : ∀ v : Value, (ofValue v).needValue = .ok v
  | .dict entries => by simp [ofValue, needValue, needEntries_ofEntries entries]
  | .null | .bool _ | .number _ | .text _ | .textMember _ | .bytes _ | .list _ | .tuple _ | .set _
  | .range .. | .result .. | .date _ | .dateTime _ | .pattern _ | .member _ | .entry .. => rfl

/-- The arguments that the values of a mapping are stand for those values. -/
theorem needEntries_ofEntries : ∀ entries : Entries, needEntries (ofEntries entries) = .ok entries
  | [] => rfl
  | (key, v) :: rest => by
    simp [ofEntries, needEntries, needValue_ofValue v, needEntries_ofEntries rest, ok_bind]

end

@[simp] theorem isTruthy_ofValue (v : Value) : (ofValue v).isTruthy = v.isTruthy := by
  cases v with
  | dict entries => cases entries <;> rfl
  | _ => rfl

theorem needFirst_eq_ok_iff {function name : String} {first : Option Argument} {a : Argument} :
    needFirst function name first = .ok a ↔ first = some a := by
  cases first <;> simp [needFirst]

/-- Only a rule stands for a rule. -/
theorem needRule_eq_some_iff {a : Argument} {r : Rule} : a.needRule = .ok (some r) ↔ a = .rule r := by
  cases a with
  | rule s => simp [needRule]
  | _ =>
    rw [needRule]
    · split <;> simp
    · nofun

end Argument

namespace Keywords

variable {k : Keywords} {name : String} {v : Value}

/-- A name that a function does not know is not given to it. -/
theorem lookup_eq_none_of_check {function : String} {position : Option String} {known : List String}
    (h : k.check function position known = .ok ()) (hname : name ∉ known) : k.lookup name = none := by
  unfold check at h
  split at h
  · rename_i hfind
    rw [List.lookup_eq_none_iff]
    intro e he
    have hknown := List.find?_eq_none.mp hfind e he
    simp only [Bool.not_eq_true', Bool.not_eq_false, List.contains_iff_mem] at hknown
    simpa using ne_of_mem_of_not_mem hknown hname |>.symm
  · split at h <;> cases h

theorem check_eq_ok {function : String} {position : Option String} {known : List String}
    (h : ∀ e ∈ k, e.1 ∈ known) : k.check function position known = .ok () := by
  have hnone : k.find? (fun e => !known.contains e.1) = none :=
    List.find?_eq_none.mpr fun e he => by simpa using h e he
  rw [check, hnone]
  rfl

/-- Whether a pattern is not given ready made: it is given by its source, if at all. -/
def GivesSource (k : Keywords) (name : String) : Prop := ∀ p, k.value name .null ≠ .ok (.pattern p)

end Keywords

namespace Build

variable {k : Keywords} {common : Common} {first : Option Argument}

theorem commonOf_eq_ok_iff : commonOf k = .ok common ↔
    k.value "required" (.bool false) = .ok common.required ∧ hookOf k = .ok common.hook ∧
      k.value "timeout" .null = .ok common.timeout ∧ checkTimeout common.timeout = .ok () := by
  simp only [commonOf, bind_eq_ok_iff, pure_eq_ok_iff]
  constructor
  · rintro ⟨required, hrequired, hook, hhook, timeout, htimeout, ⟨⟩, hcheck, rfl⟩
    exact ⟨hrequired, hhook, htimeout, hcheck⟩
  · rintro ⟨hrequired, hhook, htimeout, hcheck⟩
    exact ⟨_, hrequired, _, hhook, _, htimeout, _, hcheck, rfl⟩

theorem text_eq_ok_iff {checks : TextChecks} : text k = .ok (.text common checks) ↔
    k.check "string" none (commonNames ++ ["min", "max", "pattern", "email"]) = .ok () ∧
      commonOf k = .ok common ∧ k.value "min" .null = .ok checks.min ∧
      k.value "max" .null = .ok checks.max ∧ checkSizes "string" checks.min checks.max = .ok () ∧
      (∃ source, k.value "pattern" .null = .ok source ∧ compilePattern source = .ok checks.pattern) ∧
      k.value "email" (.bool false) = .ok checks.email := by
  simp only [text, bind_eq_ok_iff, pure_eq_ok_iff, Rule.text.injEq]
  constructor
  · rintro ⟨⟨⟩, hnames, _, hcommon, min, hmin, max, hmax, ⟨⟩, hsizes, source, hsource, pattern, hpattern,
      email, hemail, rfl, rfl⟩
    exact ⟨hnames, hcommon, hmin, hmax, hsizes, ⟨source, hsource, hpattern⟩, hemail⟩
  · rintro ⟨hnames, hcommon, hmin, hmax, hsizes, ⟨source, hsource, hpattern⟩, hemail⟩
    exact ⟨_, hnames, _, hcommon, _, hmin, _, hmax, _, hsizes, _, hsource, _, hpattern, _, hemail, rfl, rfl⟩

theorem number_eq_ok_iff {checks : NumberChecks} : number k = .ok (.number common checks) ↔
    k.check "number" none (commonNames ++ ["min", "max", "integer"]) = .ok () ∧
      commonOf k = .ok common ∧ k.value "min" .null = .ok checks.min ∧
      k.value "max" .null = .ok checks.max ∧ checkOrder "number" checks.min checks.max = .ok () ∧
      k.value "integer" (.bool false) = .ok checks.integer := by
  simp only [number, bind_eq_ok_iff, pure_eq_ok_iff, Rule.number.injEq]
  constructor
  · rintro ⟨⟨⟩, hnames, _, hcommon, min, hmin, max, hmax, ⟨⟩, horder, integer, hinteger, rfl, rfl⟩
    exact ⟨hnames, hcommon, hmin, hmax, horder, hinteger⟩
  · rintro ⟨hnames, hcommon, hmin, hmax, horder, hinteger⟩
    exact ⟨_, hnames, _, hcommon, _, hmin, _, hmax, _, horder, _, hinteger, rfl, rfl⟩

theorem boolean_eq_ok_iff {words : TruthWords} : boolean k = .ok (.boolean common words) ↔
    k.check "boolean" none (commonNames ++ ["truthy", "falsy"]) = .ok () ∧ commonOf k = .ok common ∧
      (∃ v, k.value "truthy" .null = .ok v ∧ wordsOf v = .ok words.truthy) ∧
      (∃ v, k.value "falsy" .null = .ok v ∧ wordsOf v = .ok words.falsy) := by
  simp only [boolean, bind_eq_ok_iff, pure_eq_ok_iff, Rule.boolean.injEq]
  constructor
  · rintro ⟨⟨⟩, hnames, _, hcommon, v, hv, truthy, htruthy, w, hw, falsy, hfalsy, rfl, rfl⟩
    exact ⟨hnames, hcommon, ⟨v, hv, htruthy⟩, ⟨w, hw, hfalsy⟩⟩
  · rintro ⟨hnames, hcommon, ⟨v, hv, htruthy⟩, ⟨w, hw, hfalsy⟩⟩
    exact ⟨_, hnames, _, hcommon, _, hv, _, htruthy, _, hw, _, hfalsy, rfl, rfl⟩

theorem date_eq_ok_iff : date k = .ok (.date common) ↔
    k.check "date" none commonNames = .ok () ∧ commonOf k = .ok common := by
  simp only [date, bind_eq_ok_iff, pure_eq_ok_iff, Rule.date.injEq]
  constructor
  · rintro ⟨⟨⟩, hnames, _, hcommon, rfl⟩
    exact ⟨hnames, hcommon⟩
  · rintro ⟨hnames, hcommon⟩
    exact ⟨_, hnames, _, hcommon, rfl⟩

/-- A bound that is given by its own name, if at all. -/
theorem boundOf_of_value {name other : String} {v : Value} (h : k.value name .null = .ok v)
    (hother : k.value other .null = .ok .null) : boundOf k name other = .ok v := by
  rw [boundOf, h, ok_bind, hother]
  cases v <;> rfl

theorem array_eq_ok_iff {element : Option Rule} {checks : ArrayChecks} :
    array k = .ok (.array common element checks) ↔
      k.check "array" none
          (commonNames ++ ["of", "min_items", "max_items", "min", "max", "unique", "delimiter"]) = .ok () ∧
        commonOf k = .ok common ∧ boundOf k "min_items" "min" = .ok checks.minItems ∧
        boundOf k "max_items" "max" = .ok checks.maxItems ∧
        checkSizes "array" checks.minItems checks.maxItems = .ok () ∧
        k.value "delimiter" (.text ",") = .ok checks.delimiter ∧ checks.delimiter.isTruthy = true ∧
        k.value "unique" (.bool false) = .ok checks.unique ∧ (k.get "of").needRule = .ok element := by
  simp only [array, bind_eq_ok_iff, ite_throw_bind_eq_ok_iff, pure_eq_ok_iff, Rule.array.injEq,
    Bool.not_eq_true', Bool.not_eq_false]
  constructor
  · rintro ⟨⟨⟩, hnames, _, hcommon, minItems, hmin, maxItems, hmax, ⟨⟩, hsizes, delimiter, hdelimiter,
      htruthy, unique, hunique, _, helement, rfl, rfl, rfl⟩
    exact ⟨hnames, hcommon, hmin, hmax, hsizes, hdelimiter, htruthy, hunique, helement⟩
  · rintro ⟨hnames, hcommon, hmin, hmax, hsizes, hdelimiter, htruthy, hunique, helement⟩
    exact ⟨_, hnames, _, hcommon, _, hmin, _, hmax, _, hsizes, _, hdelimiter, htruthy, _, hunique, _,
      helement, rfl, rfl, rfl⟩

theorem conditions_eq_ok_iff {c : Conditions} : conditions k = .ok c ↔
    k.value? "is_" = .ok c.equals ∧ k.value? "in_" = .ok c.oneOf ∧
      (∃ source, k.value "matches" .null = .ok source ∧ compilePattern source = .ok c.pattern) ∧
      k.value "min" .null = .ok c.min ∧ k.value "max" .null = .ok c.max := by
  simp only [conditions, bind_eq_ok_iff, pure_eq_ok_iff]
  constructor
  · rintro ⟨equals, hequals, oneOf, honeOf, source, hsource, pattern, hpattern, min, hmin, max, hmax, rfl⟩
    exact ⟨hequals, honeOf, ⟨source, hsource, hpattern⟩, hmin, hmax⟩
  · rintro ⟨hequals, honeOf, ⟨source, hsource, hpattern⟩, hmin, hmax⟩
    exact ⟨_, hequals, _, honeOf, _, hsource, _, hpattern, _, hmin, _, hmax, rfl⟩

theorem conditional_eq_ok_iff {field : Value} {c : Conditions} {r : Rule} :
    conditional k field (.conditions c) = .ok r ↔ ∃ common consequent otherwise base,
      commonOf k = .ok common ∧ c.isConfigured = true ∧ k.get "then" = .rule consequent ∧
        (k.get "otherwise").needRule = .ok otherwise ∧ (k.get "base").needRule = .ok base ∧
        r = .conditional common field c consequent otherwise base := by
  simp only [conditional, needConditions, bind_eq_ok_iff, ite_throw_bind_eq_ok_iff, pure_eq_ok_iff,
    Bool.not_eq_true', Bool.not_eq_false]
  constructor
  · rintro ⟨common, hcommon, -, _, rfl, hconfigured, _ | consequent, hthen, otherwise, hotherwise, base,
      hbase, h⟩
    · cases h
    · cases h
      exact ⟨common, consequent, otherwise, base, hcommon, hconfigured,
        Argument.needRule_eq_some_iff.mp hthen, hotherwise, hbase, rfl⟩
  · rintro ⟨common, consequent, otherwise, base, hcommon, hconfigured, hthen, hotherwise, hbase, rfl⟩
    rw [hthen]
    exact ⟨common, hcommon, Bool.false_ne_true, c, rfl, hconfigured, some consequent, rfl, otherwise, hotherwise,
      base, hbase, rfl⟩

theorem whenever_eq_ok_iff {field : Value} {c : Conditions} {consequent : Rule} {otherwise base : Option Rule} :
    whenever first k = .ok (.conditional common field c consequent otherwise base) ↔
      k.check "when" (some "field") ["then", "otherwise", "is_", "in_", "matches", "min", "max", "required",
          "base"] = .ok () ∧
        (∃ a, first = some a ∧ a.needValue = .ok field) ∧ conditions k = .ok c ∧ c.isConfigured = true ∧
        commonOf k = .ok common ∧ k.get "then" = .rule consequent ∧
        (k.get "otherwise").needRule = .ok otherwise ∧ (k.get "base").needRule = .ok base := by
  simp only [whenever, bind_eq_ok_iff, ite_throw_bind_eq_ok_iff, conditional_eq_ok_iff,
    Rule.conditional.injEq, Argument.needFirst_eq_ok_iff]
  constructor
  · rintro ⟨⟨⟩, hnames, a, hfirst, _, hfield, -, _, hc, _, _, _, _, hcommon, hconfigured, hthen, hotherwise,
      hbase, rfl, rfl, rfl, rfl, rfl, rfl⟩
    exact ⟨hnames, ⟨a, hfirst, hfield⟩, hc, hconfigured, hcommon, hthen, hotherwise, hbase⟩
  · rintro ⟨hnames, ⟨a, hfirst, hfield⟩, hc, hconfigured, hcommon, hthen, hotherwise, hbase⟩
    refine ⟨_, hnames, a, hfirst, _, hfield, ?_, _, hc, _, _, _, _, hcommon, hconfigured, hthen, hotherwise,
      hbase, rfl, rfl, rfl, rfl, rfl, rfl⟩
    rw [hthen]
    exact Bool.false_ne_true

theorem custom_eq_ok_iff {typeName : Value} {options : Entries} :
    custom first k = .ok (.custom common typeName options) ↔
      k.lookup "type_name" = none ∧ (∃ a, first = some a ∧ a.needValue = .ok typeName) ∧
        commonOf k = .ok common ∧
        (k.filter fun e => !commonNames.contains e.1).mapM
          (fun e => do return (Value.text e.1, ← e.2.needValue)) = .ok options := by
  cases hname : k.lookup "type_name" with
  | some a => simp [custom, hname]
  | none =>
    simp only [custom, hname, Option.isSome_none, Bool.false_eq_true, if_false, bind_eq_ok_iff,
      pure_eq_ok_iff, Rule.custom.injEq, Argument.needFirst_eq_ok_iff, true_and]
    constructor
    · rintro ⟨a, hfirst, _, hcommon, _, hoptions, _, hvalue, rfl, rfl, rfl⟩
      exact ⟨⟨a, hfirst, hvalue⟩, hcommon, hoptions⟩
    · rintro ⟨⟨a, hfirst, hvalue⟩, hcommon, hoptions⟩
      exact ⟨a, hfirst, _, hcommon, _, hoptions, _, hvalue, rfl, rfl, rfl⟩

/-- What every rule has is read for an object rule, too, from whatever its fields are taken. -/
theorem commonOf_of_object {fields : List (Value × Rule)} {defaults : Entries}
    (h : object first k = .ok (.object common fields defaults)) : commonOf k = .ok common := by
  unfold object at h
  obtain ⟨-, -, h⟩ := bind_eq_ok_iff.mp h
  obtain ⟨a, -, h⟩ := bind_eq_ok_iff.mp h
  have hlast : ∀ nested : Attempt Schema,
      (nested >>= fun s => do return Rule.object (← commonOf k) s.fields s.defaults) =
        .ok (.object common fields defaults) → commonOf k = .ok common := by
    intro nested hnested
    simp only [bind_eq_ok_iff, pure_eq_ok_iff, Rule.object.injEq] at hnested
    obtain ⟨-, -, _, hcommon, rfl, -⟩ := hnested
    exact hcommon
  split at h <;> exact hlast _ h

/-- The rule for nested records of a schema. -/
theorem object_schema {s : Schema}
    (hnames : k.check "object_" (some objectPosition) (commonNames ++ ["defaults"]) = .ok ())
    (hdefaults : k.lookup "defaults" = none) (hcommon : commonOf k = .ok common) :
    object (some (.schema s)) k = .ok (.object common s.fields s.defaults) := by
  have hmore : withMoreDefaults s (k.get "defaults") = .ok s := by
    rw [Keywords.get, hdefaults]
    rfl
  simp only [object, needFirst, hnames, hmore, hcommon, pure, Except.pure, ok_bind]

end Build

/-- Whether builders make a rule, and all rules under it, of arguments that can be written down: there are no
hooks, fields are named by texts, patterns are given by their source, conditional rules name a field and custom
rules a type, and no option of a custom rule has the name of an entry of its own. -/
inductive Rule.IsBuilt : Rule → Prop
  | text {k : Keywords} {common : Common} {checks : TextChecks} (hook : common.hook = none)
      (pattern : k.GivesSource "pattern") (built : Build.text k = .ok (.text common checks)) :
      IsBuilt (.text common checks)
  | number {k : Keywords} {common : Common} {checks : NumberChecks} (hook : common.hook = none)
      (built : Build.number k = .ok (.number common checks)) : IsBuilt (.number common checks)
  | boolean {k : Keywords} {common : Common} {words : TruthWords} (hook : common.hook = none)
      (built : Build.boolean k = .ok (.boolean common words)) : IsBuilt (.boolean common words)
  | date {k : Keywords} {common : Common} (hook : common.hook = none)
      (built : Build.date k = .ok (.date common)) : IsBuilt (.date common)
  | object {first : Option Argument} {k : Keywords} {common : Common} {fields : List (Value × Rule)}
      {defaults : Entries} (hook : common.hook = none) (names : ∀ f ∈ fields, f.1.text?.isSome)
      (rules : ∀ f ∈ fields, f.2.IsBuilt)
      (built : Build.object first k = .ok (.object common fields defaults)) :
      IsBuilt (.object common fields defaults)
  | array {k : Keywords} {common : Common} {element : Option Rule} {checks : ArrayChecks}
      (hook : common.hook = none) (rules : ∀ r ∈ element, r.IsBuilt)
      (built : Build.array k = .ok (.array common element checks)) : IsBuilt (.array common element checks)
  | whenever {first : Option Argument} {k : Keywords} {common : Common} {field : Value} {c : Conditions}
      {consequent : Rule} {otherwise base : Option Rule} (hook : common.hook = none)
      (name : field.isTruthy = true) (pattern : k.GivesSource "matches") (ruleThen : consequent.IsBuilt)
      (ruleOtherwise : ∀ r ∈ otherwise, r.IsBuilt) (ruleBase : ∀ r ∈ base, r.IsBuilt)
      (built : Build.whenever first k = .ok (.conditional common field c consequent otherwise base)) :
      IsBuilt (.conditional common field c consequent otherwise base)
  | custom {first : Option Argument} {k : Keywords} {common : Common} {typeName : Value} {options : Entries}
      (hook : common.hook = none) (name : typeName.isTruthy = true)
      (free : ∀ e ∈ k, e.1 ∉ ["type", "name"])
      (built : Build.custom first k = .ok (.custom common typeName options)) :
      IsBuilt (.custom common typeName options)

/-- Whether a schema names its fields by texts and has rules for them that were built. -/
structure Schema.IsBuilt (s : Schema) : Prop where
  names : ∀ f ∈ s.fields, f.1.text?.isSome
  rules : ∀ f ∈ s.fields, f.2.IsBuilt

end RecordCheck
