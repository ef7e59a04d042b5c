import RecordCheck.Proofs.Repetition

/-!
# Validating again

A record that was accepted under a schema without conditional and custom rules is in a normal form: it is
accepted again as it is, whether values are converted as before or not at all.  The defaults are there by
then, every field is found under the key under which it was found before, and what became blank is left
alone.
-/

set_option autoImplicit false

namespace RecordCheck

/-! ## Plain rules -/

/-- Whether the fields of a record have plain names, no two of them the same, and the defaults have names
that are the same as themselves, as all texts are. -/
def HasPlainFields (fields : List (Value × Rule)) (defaults : Entries) : Prop :=
  HasPlainNames fields ∧ ∀ d ∈ defaults, d.1.sameKey d.1 = true

/-- Whether a rule is neither conditional nor custom, has plain fields, and allows items that are the
same. -/
def Rule.IsPlain : Rule → Prop
  | .object _ fields defaults => HasPlainFields fields defaults
  | .array _ _ checks => checks.unique.isTruthy = false
  | .conditional .. | .custom .. => False
  | _ => True

/-- Whether a schema and all rules in it are plain. -/
structure Schema.IsPlain (schema : Schema) : Prop where
  fields : HasPlainFields schema.fields schema.defaults
  rules : ∀ f ∈ schema.fields, f.2.Everywhere Rule.IsPlain

/-- Whether values are converted in a second validation as in the first or not at all. -/
def ConvertsNoMore (context again : Context) : Prop :=
  again.convert = context.convert ∨ again.convert = false

variable {registry : Custom.Registry} {context again : Context} {data : Entries}

/-- What the induction over rules shows: an accepted value is accepted again as it is. -/
def Idempotent (registry : Custom.Registry) (rule : Rule) : Prop :=
  ∀ {context again : Context} {value accepted notes : Value}, ConvertsNoMore context again →
    rule.validate registry context true value = .ok (.accepted accepted notes) →
      rule.validate registry again true accepted = .ok (.accept accepted)

theorem Rule.IsPlain.isConditional_eq {rule : Rule} (h : rule.IsPlain) : rule.isConditional = false := by
  cases rule with
  | conditional common field conditions consequent otherwise base => exact h.elim
  | _ => rfl

theorem Rule.IsPlain.isCustom_eq {rule : Rule} (h : rule.IsPlain) : rule.isCustom = false := by
  cases rule with
  | custom common typeName options => exact h.elim
  | _ => rfl

/-- What was accepted as a blank value need not be there. -/
theorem Rule.IsPlain.isRequired_eq_false {rule : Rule} (hplain : rule.IsPlain)
    {value accepted notes : Value} (hblank : accepted.isBlank = true)
    (h : rule.validate registry context true value = .ok (.accepted accepted notes)) :
    rule.isRequired = false := by
  rw [Bool.eq_false_iff]
  intro hrequired
  have hnot := not_isBlank_of_validate hplain.isConditional_eq hplain.isCustom_eq hrequired h
  rw [hblank] at hnot
  cases hnot

/-- A plain rule repeats in every record what it has accepted in one. -/
theorem Rule.IsPlain.repeats {record : Entries} {rule : Rule} (hplain : rule.IsPlain)
    (hrule : Idempotent registry rule) (hagain : ConvertsNoMore context again) :
    rule.Repeats registry context again data record where
  selected := by
    have hself := hplain.isConditional_eq
    rw [activate_of_not_isConditional hself, activate_of_not_isConditional hself]
  repeated h := hrule hagain h
  filled hselected _ h hblank := by
    rw [activate_of_not_isConditional hplain.isConditional_eq] at hselected
    cases hselected
    exact hplain.isRequired_eq_false hblank h

/-! ## Records -/

/-- A record that was accepted has all defaults already, and all its fields are accepted again. -/
theorem record_again {fields : List (Value × Rule)} {defaults entries : Entries}
    {outcomes : List (Value × Outcome)} (hfields : HasPlainFields fields defaults)
    (hrules : ∀ f ∈ fields, f.2.IsPlain ∧ Idempotent registry f.2)
    (hagain : ConvertsNoMore context again)
    (h : Rule.validateFields registry context (Entries.withDefaults entries defaults) fields =
      .ok outcomes)
    (hall : ∀ f ∈ outcomes, f.2.isAccepted = true) {record : Entries}
    (hrecord : record = recordOfFields (Entries.withDefaults entries defaults) outcomes) :
    Entries.withDefaults record defaults = record ∧
      ∃ found, Rule.validateFields registry again record fields = .ok found ∧
        mergeFields record found = .accept (.dict record) :=
  record_repeats hfields.1.hasTextNames hfields.2
    (fun f hf => (hrules f hf).1.repeats (hrules f hf).2 hagain) h hall hrecord

/-! ## Rules -/

/-- Blank values are not looked at again, so that it is left to show what a rule accepts for other values
and does not make blank. -/
theorem idempotent_of_step {rule : Rule} (hplain : rule.IsPlain)
    (step : ∀ {context again : Context} {value accepted notes : Value}, ConvertsNoMore context again →
      value.isBlank = false → accepted.isBlank = false →
        rule.validate registry context true value = .ok (.accepted accepted notes) →
          rule.validate registry again true accepted = .ok (.accept accepted)) :
    Idempotent registry rule := by
  intro context again value accepted notes hagain h
  cases haccepted : accepted.isBlank with
  | true =>
    rw [Rule.validate_of_isBlank haccepted hplain.isConditional_eq]
    have hrequired := hplain.isRequired_eq_false haccepted h
    exact unchecked_eq_accepted_iff.mpr ⟨rfl, fun _ => hrequired, rfl⟩
  | false =>
    cases hvalue : value.isBlank with
    | true =>
      rw [Rule.validate_of_isBlank hvalue hplain.isConditional_eq] at h
      obtain ⟨rfl, -, -⟩ := unchecked_eq_accepted_iff.mp h
      rw [haccepted] at hvalue
      cases hvalue
    | false => exact step hagain hvalue haccepted h

/-- Every plain rule accepts again what it accepted. -/
theorem idempotent_of_isPlain {rule : Rule} (hplain : rule.Everywhere Rule.IsPlain) :
    Idempotent registry rule := by
  induction rule using Rule.induction with
  | text common checks =>
    apply idempotent_of_step hplain
    intro context again value accepted notes hagain hvalue haccepted h
    simp only [Rule.validate, hvalue, haccepted, Bool.and_false] at h ⊢
    exact Coercion.coerceText_again h hagain
  | number common checks =>
    apply idempotent_of_step hplain
    intro context again value accepted notes hagain hvalue haccepted h
    simp only [Rule.validate, hvalue, haccepted, Bool.and_false] at h ⊢
    exact Coercion.coerceNumber_again h again.convert
  | boolean common words =>
    apply idempotent_of_step hplain
    intro context again value accepted notes hagain hvalue haccepted h
    simp only [Rule.validate, hvalue, haccepted, Bool.and_false] at h ⊢
    obtain ⟨b, rfl⟩ := Coercion.exists_bool_of_ensureBoolean h
    exact Coercion.ensureBoolean_bool words again.convert b
  | date common =>
    apply idempotent_of_step hplain
    intro context again value accepted notes hagain hvalue haccepted h
    simp only [Rule.validate, hvalue, haccepted, Bool.and_false] at h ⊢
    exact Coercion.ensureDate_of_isDate (Coercion.isDate_of_ensureDate h)
  | object common fields defaults ih =>
    apply idempotent_of_step hplain.1
    intro context again value accepted notes hagain hvalue haccepted h
    obtain ⟨entries, outcomes, rfl, houtcomes, hall, rfl⟩ :=
      Rule.exists_outcomes_of_validate_object hvalue h
    have hrules := Rule.everywhereInFields_iff.mp hplain.2
    -- What is converted does not depend on the record that a field stands in.
    have hwithin (record : Entries) : ConvertsNoMore
        (context.forData (Entries.withDefaults entries defaults)) (again.forData record) := hagain
    obtain ⟨hdefaults, found, hfound, hmerge⟩ := record_again hplain.1
      (fun f hf => ⟨(hrules f hf).self, ih f hf (hrules f hf)⟩) (hwithin _) houtcomes hall rfl
    simp only [Rule.validate, haccepted, Bool.and_false]
    rw [if_neg Bool.false_ne_true, hdefaults, hfound]
    exact congrArg Except.ok hmerge
  | array common element checks ih =>
    apply idempotent_of_step hplain.1
    intro context again value accepted notes hagain hvalue haccepted h
    cases element with
    | none =>
      rw [Rule.validate_array_none_iff hvalue] at h
      rw [Rule.validate_array_none_iff haccepted]
      obtain ⟨items, rfl, -, hfit, -⟩ := Coercion.coerceArray_spec h
      exact Coercion.coerceArray_again hfit hplain.1 again.convert
    | some r =>
      obtain ⟨items, elements, -, hfit, -, helements, rfl⟩ :=
        Rule.exists_elements_of_validate_array hvalue h
      have helement : r.Everywhere Rule.IsPlain := hplain.2
      rw [helements.length_eq] at hfit
      refine Rule.validate_array_some_of_accepted haccepted
        (Coercion.coerceArray_again hfit hplain.1 again.convert)
        (Rule.activate_of_not_isConditional helement.self.isConditional_eq) fun e he => ?_
      obtain ⟨item, -, notes, hitem⟩ := Attempt.exists_mem_of_forall₂' helements he
      exact ih r rfl helement hagain hitem
  | conditional common field conditions consequent otherwise base => exact hplain.1.elim
  | custom common typeName options => exact hplain.elim

/-! ## Schemas -/

/-- A record that was accepted under a plain schema is accepted again as it is. -/
theorem Schema.validate_idempotent {schema : Schema} (hplain : schema.IsPlain)
    (hagain : ConvertsNoMore context again) {value accepted notes : Value}
    (h : schema.validate registry context value = .ok (.accepted accepted notes)) :
    schema.validate registry again accepted = .ok (.accept accepted) := by
  obtain ⟨entries, outcomes, rfl, houtcomes, hall, rfl⟩ := exists_outcomes_of_validate h
  have hwithin (record : Entries) : ConvertsNoMore
      (context.forData (Entries.withDefaults entries schema.defaults)) (again.forData record) := hagain
  obtain ⟨hdefaults, found, hfound, hmerge⟩ := record_again hplain.fields
    (fun f hf => ⟨(hplain.rules f hf).self, idempotent_of_isPlain (hplain.rules f hf)⟩) (hwithin _)
    houtcomes hall rfl
  rw [validate, hdefaults, hfound]
  exact congrArg Except.ok hmerge

namespace Sample

/-- What is said of a rule that need not be there and has no hook. -/
def plain : Common := ⟨.bool false, none, .null⟩

/-- A rule for texts of at most eight characters. -/
def shortText : Rule := .text plain ⟨.null, .int 8, .null, .null⟩

/-- A schema with a text, an array of texts and a record that has a default. -/
def plainSchema : Schema :=
  ⟨[(.text "name", shortText),
    (.text "tags", .array plain (some shortText) ⟨.null, .int 3, .bool false, .text ","⟩),
    (.text "home", .object plain [(.text "town", shortText), (.text "land", shortText)]
      [(.text "land", .text "  no  where ")])],
    [(.text "name", .text "nobody")]⟩

/-- A record that is another one once it is converted. -/
def looseRecord : Value :=
  .dict [(.text "tags", .tuple [.text " a  b", .text "c"]),
    (.text "home", .dict [(.bytes [116, 111, 119, 110], .text "ur ")])]

/-- The record that it is then. -/
def tidyRecord : Value :=
  .dict [(.text "tags", .list [.text "a b", .text "c"]),
    (.text "home", .dict [(.bytes [116, 111, 119, 110], .text "ur"), (.text "land", .text "no where")]),
    (.text "name", .text "nobody")]

end Sample

open Sample in
/-- A record that was converted is accepted again, converting and not. -/
theorem Schema.validate_idempotent_sample :
    plainSchema.validate (.empty "none") ⟨[], true, []⟩ looseRecord = .ok (.accept tidyRecord) ∧
      plainSchema.validate (.empty "none") ⟨[], true, []⟩ tidyRecord = .ok (.accept tidyRecord) ∧
      plainSchema.validate (.empty "none") ⟨[], false, []⟩ tidyRecord = .ok (.accept tidyRecord) := by
  have hplain : plainSchema.IsPlain := by
    have hhome : HasPlainFields [(.text "town", shortText), (.text "land", shortText)]
        [(.text "land", .text "  no  where ")] := ⟨⟨["town", "land"], by decide, rfl⟩, by decide⟩
    refine ⟨⟨⟨["name", "tags", "home"], by decide, rfl⟩, by decide⟩, ?_⟩
    rw [← Rule.everywhereInFields_iff]
    exact ⟨trivial, ⟨rfl, trivial⟩, ⟨hhome, trivial, trivial, trivial⟩, trivial⟩
  have h : plainSchema.validate (.empty "none") ⟨[], true, []⟩ looseRecord = .ok (.accept tidyRecord) :=
    rfl
  exact ⟨h, Schema.validate_idempotent hplain (.inl rfl) h,
    Schema.validate_idempotent hplain (.inr rfl) h⟩

end RecordCheck
