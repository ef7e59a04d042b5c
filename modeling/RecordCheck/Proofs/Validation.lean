import RecordCheck.Proofs.Coercion
import RecordCheck.Proofs.Outcome
import RecordCheck.Proofs.Rule.Structure

/-!
# Accepted values under any rule

What it says about a value, a field or a record that it was accepted, one recursion step of validation at
a time: which parts were accepted, and what the accepted value is made of.
-/

set_option autoImplicit false

namespace RecordCheck

open Coercion

variable {registry : Custom.Registry} {context : Context} {data : Entries}
  {value accepted notes : Value}

/-- A value that no rule looks at is accepted as it is, unless it is blank and required. -/
theorem unchecked_eq_accepted_iff {required : Bool} :
    unchecked value required = .ok (.accepted accepted notes) ↔
      accepted = value ∧ (value.isBlank = true → required = false) ∧ notes = .list [] := by
  unfold unchecked
  by_cases h : (value.isBlank && required) = true
  · rw [if_pos h]
    rw [Bool.and_eq_true] at h
    simp [h]
  · rw [if_neg h]
    rw [Bool.and_eq_true, not_and, Bool.not_eq_true] at h
    constructor
    · intro hunchecked
      cases Attempt.pure_eq_ok_iff.mp hunchecked
      exact ⟨rfl, h, rfl⟩
    · rintro ⟨rfl, -, rfl⟩
      rfl

/-- A field that the record does not hold is accepted unless it is required. -/
theorem absent_eq_accepted_iff {required : Bool} :
    Outcome.absent required = .ok (.accepted accepted notes) ↔
      required = false ∧ accepted = .null ∧ notes = .list [] := by
  cases required with
  | true => simp [Outcome.absent]
  | false =>
    constructor
    · intro h
      cases Attempt.pure_eq_ok_iff.mp h
      exact ⟨rfl, rfl, rfl⟩
    · rintro ⟨-, rfl, rfl⟩
      rfl

/-- Items of which each has an outcome that is accepted are accepted with the outcomes' values. -/
theorem forall₂_accepted {validate : Value → Attempt Outcome} {items : List Value}
    {outcomes : List Outcome} (h : List.Forall₂ (fun item o => validate item = .ok o) items outcomes)
    (hall : ∀ o ∈ outcomes, o.isAccepted = true) :
    List.Forall₂ (fun item o => ∃ notes, validate item = .ok (.accepted o.value notes)) items
      outcomes := by
  induction h with
  | nil => exact .nil
  | cons hfirst _ ih =>
    obtain ⟨haccepted, hrest⟩ := List.forall_mem_cons.mp hall
    obtain ⟨value, notes, rfl⟩ := Outcome.isAccepted_iff.mp haccepted
    exact .cons ⟨notes, hfirst⟩ (ih hrest)

/-- A field is accepted if it is missing and not required, or if its value is accepted. -/
theorem validateField_eq_ok_iff {name : Value} {rule : Rule} {o : Outcome} :
    validateField registry context data name rule = .ok o ↔
      ∃ active required, rule.activate data = .ok (active, required) ∧
        ((data.resolve name = none ∧ Outcome.absent required.isTruthy = .ok o) ∨
          ∃ key value, data.resolve name = some (key, value) ∧
            rule.validate registry context true value = .ok o) := by
  simp only [validateField, Attempt.bind_eq_ok_iff, Prod.exists]
  cases data.resolve name with
  | none => simp
  | some found =>
    obtain ⟨key, value⟩ := found
    simp [Prod.ext_iff]

namespace Rule

/-- Every field of a record has its outcome. -/
theorem exists_outcome_of_validateFields {fields : List (Value × Rule)}
    {outcomes : List (Value × Outcome)} (h : validateFields registry context data fields = .ok outcomes)
    {f : Value × Rule} (hf : f ∈ fields) :
    ∃ o, (f.1, o) ∈ outcomes ∧ validateField registry context data f.1 f.2 = .ok o := by
  obtain ⟨⟨name, o⟩, ho, hname, hvalidate⟩ :=
    Attempt.exists_mem_of_forall₂ (validateFields_eq_ok_iff.mp h) hf
  dsimp only at hname hvalidate
  subst hname
  exact ⟨o, ho, hvalidate⟩

/-- A record is accepted under a rule just when it is a mapping and all its fields are accepted. -/
theorem validate_object_eq_accepted_iff {common : Common} {fields : List (Value × Rule)}
    {defaults : Entries} (hvalue : value.isBlank = false) :
    (object common fields defaults).validate registry context true value =
        .ok (.accepted accepted notes) ↔
      ∃ entries outcomes, value = .dict entries ∧
        validateFields registry (context.forData (Entries.withDefaults entries defaults))
          (Entries.withDefaults entries defaults) fields = .ok outcomes ∧
        (∀ f ∈ outcomes, f.2.isAccepted = true) ∧
        accepted = .dict (recordOfFields (Entries.withDefaults entries defaults) outcomes) ∧
        notes = .list [] := by
  simp only [validate, hvalue, Bool.and_false]
  cases value with
  | dict entries =>
    simp only [Bool.false_eq_true, if_false, Attempt.bind_eq_ok_iff, Attempt.pure_eq_ok_iff,
      mergeFields_eq_accepted_iff]
    constructor
    · rintro ⟨outcomes, houtcomes, hmerge⟩
      exact ⟨entries, outcomes, rfl, houtcomes, hmerge⟩
    · rintro ⟨_, outcomes, ⟨⟩, houtcomes, hmerge⟩
      exact ⟨outcomes, houtcomes, hmerge⟩
  | _ => exact iff_of_false rejectFor_ne_accepted (by rintro ⟨_, _, ⟨⟩, -⟩)

/-- A record is accepted under a rule if it is a mapping and all its fields are accepted. -/
theorem exists_outcomes_of_validate_object {common : Common} {fields : List (Value × Rule)}
    {defaults : Entries} (hvalue : value.isBlank = false)
    (h : (object common fields defaults).validate registry context true value =
      .ok (.accepted accepted notes)) :
    ∃ entries outcomes, value = .dict entries ∧
      validateFields registry (context.forData (Entries.withDefaults entries defaults))
        (Entries.withDefaults entries defaults) fields = .ok outcomes ∧
      (∀ f ∈ outcomes, f.2.isAccepted = true) ∧
      accepted = .dict (recordOfFields (Entries.withDefaults entries defaults) outcomes) := by
  obtain ⟨entries, outcomes, hentries, houtcomes, hall, haccepted, -⟩ :=
    (validate_object_eq_accepted_iff hvalue).mp h
  exact ⟨entries, outcomes, hentries, houtcomes, hall, haccepted⟩

/-- An array is accepted under a rule for its items just when it passes its checks and all its items are
accepted. -/
theorem validate_array_eq_accepted_iff {common : Common} {element : Rule} {checks : ArrayChecks}
    (hvalue : value.isBlank = false) :
    (array common (some element) checks).validate registry context true value =
        .ok (.accepted accepted notes) ↔
      ∃ items itemNotes elements,
        coerceArray checks context.convert value = .ok (.accepted (.list items) itemNotes) ∧
        (∃ selected, element.activate context.data = .ok selected) ∧
        List.Forall₂ (fun item e => ∃ notes, element.validate registry context true item =
          .ok (.accepted e notes)) items elements ∧
        accepted = .list elements ∧ notes = .list [] := by
  simp only [validate, hvalue, Bool.and_false, Bool.false_eq_true, if_false]
  constructor
  · intro h
    obtain ⟨confirmed, hconfirmed, h⟩ := Attempt.bind_eq_ok_iff.mp h
    split at h
    · rename_i items itemNotes
      obtain ⟨selected, hselected, hvalidate⟩ := Attempt.bind_eq_ok_iff.mp h
      obtain ⟨outcomes, houtcomes, hmerge⟩ := Attempt.bind_eq_ok_iff.mp hvalidate
      obtain ⟨hall, haccepted, hnotes⟩ :=
        mergeElements_eq_accepted_iff.mp (Attempt.pure_eq_ok_iff.mp hmerge)
      refine ⟨items, itemNotes, outcomes.map Outcome.value, hconfirmed, ⟨selected, hselected⟩, ?_,
        haccepted, hnotes⟩
      rw [List.forall₂_map_right_iff]
      exact forall₂_accepted (Attempt.mapM_eq_ok_iff.mp houtcomes) hall
    · rename_i hnot
      cases Attempt.pure_eq_ok_iff.mp h
      obtain ⟨items, rfl, -⟩ := coerceArray_spec hconfirmed
      exact absurd rfl (hnot items notes)
  · rintro ⟨items, itemNotes, elements, hcoerce, ⟨selected, hselected⟩, helements, rfl, rfl⟩
    obtain ⟨outcomes, houtcomes, hvalues⟩ := Attempt.exists_forall₂_of_forall₂ helements
      (S := fun item o => element.validate registry context true item = .ok o)
      (T := fun e o => o.isAccepted = true ∧ o.value = e) <| by
        rintro item - e - ⟨itemNotes, he⟩
        exact ⟨_, he, rfl, rfl⟩
    have hmap : elements = outcomes.map Outcome.value := by
      rw [← List.forall₂_eq_eq_eq, List.forall₂_map_right_iff]
      exact hvalues.imp fun _ _ h => h.2.symm
    have hmerge : mergeElements items outcomes = .accept (.list elements) := by
      refine mergeElements_eq_accepted_iff.mpr ⟨fun o ho => ?_, by rw [hmap], rfl⟩
      obtain ⟨_, -, haccepted, -⟩ := Attempt.exists_mem_of_forall₂' hvalues ho
      exact haccepted
    rw [hcoerce, Attempt.ok_bind]
    dsimp only
    rw [hselected, Attempt.ok_bind, validateItems, Attempt.mapM_eq_ok_iff.mpr houtcomes, Attempt.ok_bind,
      hmerge]
    rfl

/-- An array is accepted under a rule for its items if it is within its bounds and all its items are
accepted. -/
theorem exists_elements_of_validate_array {common : Common} {element : Rule} {checks : ArrayChecks}
    (hvalue : value.isBlank = false)
    (h : (array common (some element) checks).validate registry context true value =
      .ok (.accepted accepted notes)) :
    ∃ items elements, ensureArray checks.delimiter context.convert value = .ok (.accept (.list items)) ∧
      checks.Fit items.length ∧ (∃ selected, element.activate context.data = .ok selected) ∧
      List.Forall₂ (fun item e => ∃ notes, element.validate registry context true item =
        .ok (.accepted e notes)) items elements ∧
      accepted = .list elements := by
  obtain ⟨items, itemNotes, elements, hcoerce, hselected, helements, haccepted, -⟩ :=
    (validate_array_eq_accepted_iff hvalue).mp h
  obtain ⟨_, hitems, hensure, hfit, -⟩ := coerceArray_spec hcoerce
  cases hitems
  exact ⟨items, elements, hensure, hfit, hselected, helements, haccepted⟩

/-- An array whose items are all accepted as they are is accepted as it is, if it passes its checks. -/
theorem validate_array_some_of_accepted {common : Common} {element : Rule} {checks : ArrayChecks}
    {items : List Value} {selected : Option Rule × Value} (hitems : (Value.list items).isBlank = false)
    (hcoerce : coerceArray checks context.convert (.list items) = .ok (.accept (.list items)))
    (hselected : element.activate context.data = .ok selected)
    (hall : ∀ item ∈ items, element.validate registry context true item = .ok (.accept item)) :
    (array common (some element) checks).validate registry context true (.list items) =
      .ok (.accept (.list items)) := by
  refine (validate_array_eq_accepted_iff hitems).mpr
    ⟨items, .list [], items, hcoerce, ⟨selected, hselected⟩, ?_, rfl, rfl⟩
  exact List.forall₂_same.mpr fun item hitem => ⟨_, hall item hitem⟩

/-- An array is accepted under a rule that says nothing of its items if it is within its bounds. -/
theorem validate_array_none_iff {common : Common} {checks : ArrayChecks} {o : Outcome}
    (hvalue : value.isBlank = false) :
    (array common none checks).validate registry context true value = .ok o ↔
      coerceArray checks context.convert value = .ok o := by
  simp [validate, hvalue, coerce]

/-- A required value is not accepted as a blank one. -/
theorem not_isBlank_of_validate {rule : Rule} (hconditional : rule.isConditional = false)
    (hcustom : rule.isCustom = false) (hrequired : rule.isRequired = true)
    (h : rule.validate registry context true value = .ok (.accepted accepted notes)) :
    accepted.isBlank = false := by
  cases hvalue : value.isBlank with
  | true =>
    rw [validate_of_isBlank hvalue hconditional] at h
    obtain ⟨-, hnot, -⟩ := unchecked_eq_accepted_iff.mp h
    rw [hrequired] at hnot
    cases hnot hvalue
  | false =>
    cases rule with
    | text common checks =>
      simp only [validate, hvalue, Bool.and_false] at h
      obtain ⟨s, -, -, hblank⟩ := coerceText_spec h
      exact hblank hrequired hvalue
    | number common checks =>
      simp only [validate, hvalue, Bool.and_false] at h
      obtain ⟨n, rfl, -⟩ := coerceNumber_spec h
      rfl
    | boolean common words =>
      simp only [validate, hvalue, Bool.and_false] at h
      obtain ⟨b, rfl⟩ := exists_bool_of_ensureBoolean h
      rfl
    | date common =>
      simp only [validate, hvalue, Bool.and_false] at h
      have hdate := isDate_of_ensureDate h
      cases accepted <;> first | rfl | cases hdate
    | object common fields defaults =>
      obtain ⟨entries, outcomes, -, -, -, rfl⟩ := exists_outcomes_of_validate_object hvalue h
      rfl
    | array common element checks =>
      cases element with
      | none =>
        rw [validate_array_none_iff hvalue] at h
        obtain ⟨items, rfl, -⟩ := coerceArray_spec h
        rfl
      | some r =>
        obtain ⟨items, elements, -, -, -, -, rfl⟩ := exists_elements_of_validate_array hvalue h
        rfl
    | conditional common field conditions consequent otherwise base => cases hconditional
    | custom common typeName options => cases hcustom

end Rule

/-- A record is accepted under a schema if it is a mapping and all its fields are accepted. -/
theorem Schema.exists_outcomes_of_validate {schema : Schema}
    (h : schema.validate registry context value = .ok (.accepted accepted notes)) :
    ∃ entries outcomes, value = .dict entries ∧
      Rule.validateFields registry (context.forData (Entries.withDefaults entries schema.defaults))
        (Entries.withDefaults entries schema.defaults) schema.fields = .ok outcomes ∧
      (∀ f ∈ outcomes, f.2.isAccepted = true) ∧
      accepted = .dict (recordOfFields (Entries.withDefaults entries schema.defaults) outcomes) := by
  cases value with
  | dict entries =>
    obtain ⟨outcomes, houtcomes, hmerge⟩ := Attempt.bind_eq_ok_iff.mp h
    obtain ⟨hall, haccepted, -⟩ := mergeFields_eq_accepted_iff.mp (Attempt.pure_eq_ok_iff.mp hmerge)
    exact ⟨entries, outcomes, rfl, houtcomes, hall, haccepted⟩
  | _ =>
    obtain ⟨entry, -, hrejected⟩ := Attempt.bind_eq_ok_iff.mp h
    cases Attempt.pure_eq_ok_iff.mp hrejected

end RecordCheck
